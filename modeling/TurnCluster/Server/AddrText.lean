import TurnCluster.Lib.Fields
import TurnCluster.Server.UserKey

namespace TurnCluster

open Fields
open Server (atol atol_figures decimal isFigure)

def blank : UInt8 := 32

def dot : UInt8 := 46

def colon : UInt8 := 58

def openBracket : UInt8 := 91

def closeBracket : UInt8 := 93

/-- `inet_ntop` and `inet_pton` for the two families. -/
structure InetText where
  ntop4 : UInt32 → List UInt8
  ntop6 : List UInt8 → List UInt8
  pton4 : List UInt8 → Option UInt32
  pton6 : List UInt8 → Option (List UInt8)

/-- `getaddrinfo` for a name: the addresses it has, if it resolves. -/
abbrev Resolver := List UInt8 → Option (List IoaAddr)

def maxIoaAddrString : Nat := 65

/-- What `%d` prints for a port. -/
def portText (port : Nat) : List UInt8 := (Nat.toDigits 10 port).map fun c => UInt8.ofNat c.toNat

/-- `addr_to_string`; `none` stands for -1. -/
def addrToString (inet : InetText) (addr : IoaAddr) : Option (List UInt8) :=
  match addr.family with
  | .inet =>
    let addrtmp := inet.ntop4 addr.ip4
    if 0 < addrGetPort addr then
      some ((addrtmp ++ colon :: portText (addrGetPort addr).toNat).take (maxIoaAddrString - 1))
    else some (addrtmp.take maxIoaAddrString)
  | .inet6 =>
    let addrtmp := inet.ntop6 addr.ip6
    if 0 < addrGetPort addr then
      some ((openBracket :: addrtmp ++ closeBracket :: colon :: portText (addrGetPort addr).toNat).take
        (maxIoaAddrString - 1))
    else some (addrtmp.take maxIoaAddrString)
  | .unspec => none

/-- `atoi`: a `long` is cut to an `int`. -/
def atoi (text : List UInt8) : Int := (atol text + 2 ^ 31) % 2 ^ 32 - 2 ^ 31

/-- `get_addr_string_and_port`; `none` stands for NULL. -/
def getAddrStringAndPort (s0 : List UInt8) : Option (List UInt8 × Int) :=
  let s := s0.dropWhile (· == blank)
  if s.head? = some openBracket then
    let s := s.tail
    if closeBracket ∈ s then
      let tail := ((s.dropWhile (· != closeBracket)).tail).dropWhile (· == blank)
      if tail.head? = some colon then some (s.takeWhile (· != closeBracket), atoi tail.tail)
      else if tail = [] then some (s.takeWhile (· != closeBracket), 0)
      else none
    else none
  else if colon ∈ s then some (s.takeWhile (· != colon), atoi (s.dropWhile (· != colon)).tail)
  else some (s, 0)

/-- An `int` as a port in network order. -/
def netPort (port : Int) : UInt16 := nswap16 (UInt16.ofNat (port % 2 ^ 16).toNat)

/-- The first address of the family that is preferred, or of the other one. -/
def chooseAddr (results : List IoaAddr) : Option IoaAddr :=
  match results.find? (fun a => a.family == .inet) with
  | some a => some a
  | none => results.find? (fun a => a.family == .inet6)

/-- The text without the blanks around it. -/
def trimBlanks (text : List UInt8) : List UInt8 :=
  ((text.dropWhile (· == blank)).reverse.dropWhile (· == blank)).reverse

/-- `make_ioa_addr`: what it returns, and the address. -/
def makeIoaAddr (inet : InetText) (getaddrinfo : Resolver) (saddr0 : List UInt8) (port : Int) : Int × IoaAddr :=
  let saddr := trimBlanks (saddr0.take 256)
  if saddr = [] then (0, .inet 0 (netPort port))
  else
    match inet.pton4 saddr with
    | some ip => (0, .inet ip (netPort port))
    | none =>
      match inet.pton6 saddr with
      | some ip => (0, ⟨.inet6, netPort port, 0, ip⟩)
      | none =>
        match getaddrinfo saddr with
        | none => (-1, .any)
        | some [] => (-1, .any)
        | some results =>
          match chooseAddr results with
          | some found => (0, { found with port := netPort port })
          | none => (0, .any)

/-- `make_ioa_addr_from_full_string`. -/
def makeIoaAddrFromFullString (inet : InetText) (getaddrinfo : Resolver) (saddr : List UInt8) (defaultPort : Int)
    (addr : IoaAddr) : Int × IoaAddr :=
  match getAddrStringAndPort saddr with
  | none => (-1, addr)
  | some (sa, port) => makeIoaAddr inet getaddrinfo sa (if port < 1 then defaultPort else port)

def isHexFigure (c : UInt8) : Bool := isFigure c || (97 ≤ c && c ≤ 102)

/-- The two functions are inverse to each other, and the texts are those of addresses: figures
with dots, and hexadecimal figures with colons, of which the last may be written with dots. -/
structure InetText.Standard (inet : InetText) : Prop where
  pton4_ntop4 : ∀ ip, inet.pton4 (inet.ntop4 ip) = some ip
  pton6_ntop6 : ∀ ip, ip.length = 16 → inet.pton6 (inet.ntop6 ip) = some ip
  chars4 : ∀ ip, ∀ c ∈ inet.ntop4 ip, isFigure c = true ∨ c = dot
  dotted : ∀ ip, dot ∈ inet.ntop4 ip
  short4 : ∀ ip, (inet.ntop4 ip).length < 16
  chars6 : ∀ ip, ∀ c ∈ inet.ntop6 ip, isHexFigure c = true ∨ c = dot ∨ c = colon
  coloned : ∀ ip, ip.length = 16 → colon ∈ inet.ntop6 ip
  short6 : ∀ ip, ip.length = 16 → (inet.ntop6 ip).length < 46
  pton4_colon : ∀ text, colon ∈ text → inet.pton4 text = none
  pton6_colon : ∀ text, colon ∉ text → inet.pton6 text = none

/-- What is printed for an address is read as that address, whatever names resolve to. -/
def RoundTrips (inet : InetText) (a : IoaAddr) : Prop :=
  ∀ getaddrinfo before, ∃ text, addrToString inet a = some text ∧
    (makeIoaAddrFromFullString inet getaddrinfo text 0 before).1 = 0 ∧
    addrEq (makeIoaAddrFromFullString inet getaddrinfo text 0 before).2 a = true

theorem code_digitChar {n : Nat} (single : n < 10) : UInt8.ofNat (Nat.digitChar n).toNat = UInt8.ofNat (48 + n) := by
  revert n
  decide

theorem portText_decimal (n : Nat) :
    (portText n).all isFigure = true ∧ decimal (portText n) = n ∧ portText n ≠ [] := by
  induction n using Nat.strong_induction_on with
  | _ n ih =>
    have figure {k : Nat} (single : k < 10) : isFigure (UInt8.ofNat (48 + k)) = true ∧
        (UInt8.ofNat (48 + k)).toNat - 48 = k := by
      revert k
      decide
    by_cases single : n < 10
    · have text : portText n = [UInt8.ofNat (48 + n)] := by
        rw [portText, Nat.toDigits_of_lt_base single, List.map_singleton, code_digitChar single]
      rw [text]
      refine ⟨?_, ?_, List.cons_ne_nil _ _⟩
      · rw [List.all_cons, List.all_nil, Bool.and_true, (figure single).1]
      · exact (Nat.zero_add _).trans (figure single).2
    · have last := Nat.mod_lt n (show 10 > 0 by decide)
      have text : portText n = portText (n / 10) ++ [UInt8.ofNat (48 + n % 10)] := by
        rw [portText, Nat.toDigits_of_base_le (by decide) (Nat.le_of_not_lt single), List.map_append,
          List.map_singleton, code_digitChar last, portText]
      obtain ⟨all, value, _⟩ := ih (n / 10) (by omega)
      rw [text]
      refine ⟨?_, ?_, ?_⟩
      · rw [List.all_append, all, List.all_cons, List.all_nil, (figure last).1]
        rfl
      · rw [decimal, List.foldl_append, ← decimal, value]
        show 10 * (n / 10) + ((UInt8.ofNat (48 + n % 10)).toNat - 48) = n
        rw [(figure last).2]
        omega
      · exact List.append_ne_nil_of_right_ne_nil _ (List.cons_ne_nil _ _)

theorem length_portText_le {n size : Nat} (positive : 0 < size) (small : n < 10 ^ size) :
    (portText n).length ≤ size := by
  rw [portText, List.length_map]
  exact (Nat.length_toDigits_le_iff (by decide) positive).mpr small

theorem length_portText (port : UInt16) : (portText port.toNat).length ≤ 5 :=
  length_portText_le (by decide) (Nat.lt_of_lt_of_le port.toNat_lt (by decide))

theorem atoi_portText {port : Nat} (small : port < 2 ^ 16) : atoi (portText port) = port := by
  obtain ⟨all, value, nonempty⟩ := portText_decimal port
  rw [atoi, atol_figures nonempty all (by omega), value]
  omega

/-! Addresses written out in full: four numbers with dots, and eight groups of four hexadecimal
figures with colons. -/

section Plain

/-- A number below 256. -/
def readOctet (field : List UInt8) : Option Nat :=
  if field ≠ [] ∧ field.all isFigure = true ∧ decimal field < 256 then some (decimal field) else none

def octets (ip : UInt32) : List Nat := (List.range 4).map fun i => ip.toNat / 256 ^ i % 256

def hexFigure (n : Nat) : UInt8 := UInt8.ofNat (if n < 10 then 48 + n else 87 + n)

def hexValue (c : UInt8) : Option Nat :=
  if isFigure c then some (c.toNat - 48) else if isHexFigure c then some (c.toNat - 87) else none

def writeGroup (pair : UInt8 × UInt8) : List UInt8 :=
  [pair.1.toNat / 16, pair.1.toNat % 16, pair.2.toNat / 16, pair.2.toNat % 16].map hexFigure

def readGroup (field : List UInt8) : Option (UInt8 × UInt8) :=
  match field.mapM hexValue with
  | some [a, b, c, d] => some (UInt8.ofNat (16 * a + b), UInt8.ofNat (16 * c + d))
  | _ => none

def pairs : List UInt8 → List (UInt8 × UInt8)
  | a :: b :: rest => (a, b) :: pairs rest
  | _ => []

/-- The functions for the texts that are written out in full. -/
def plainInet : InetText where
  ntop4 ip := [dot].intercalate ((octets ip).map portText)
  ntop6 ip := [colon].intercalate ((pairs ip).map writeGroup)
  pton4 text :=
    match readFields dot readOctet text with
    | some [a, b, c, d] => some (UInt32.ofNat (a + 256 * b + 256 ^ 2 * c + 256 ^ 3 * d))
    | _ => none
  pton6 text :=
    match readFields colon readGroup text with
    | some groups => if groups.length = 8 then some (groups.flatMap fun pair => [pair.1, pair.2]) else none
    | none => none

theorem readOctet_portText {n : Nat} (small : n < 256) : readOctet (portText n) = some n := by
  obtain ⟨all, value, nonempty⟩ := portText_decimal n
  rw [readOctet, value, if_pos ⟨nonempty, all, small⟩]

theorem readOctet_foreign {c : UInt8} (foreign : isFigure c = false) (field : List UInt8) (member : c ∈ field) :
    readOctet field = none := by
  refine if_neg fun accepted => ?_
  have figure := List.all_eq_true.mp accepted.2.1 c member
  exact absurd (foreign.symm.trans figure) (by decide)

theorem hexFigure_value {n : Nat} (small : n < 16) :
    isHexFigure (hexFigure n) = true ∧ hexValue (hexFigure n) = some n := by
  revert n
  decide

theorem isHexFigure_of_mem_writeGroup {pair : UInt8 × UInt8} {c : UInt8} (member : c ∈ writeGroup pair) :
    isHexFigure c = true := by
  obtain ⟨n, among, rfl⟩ := List.mem_map.mp member
  refine (hexFigure_value ?_).1
  have first := pair.1.toNat_lt
  have second := pair.2.toNat_lt
  simp only [List.mem_cons, List.not_mem_nil, or_false] at among
  omega

theorem readGroup_writeGroup (pair : UInt8 × UInt8) : readGroup (writeGroup pair) = some pair := by
  have value {n : Nat} (small : n < 16) := (hexFigure_value small).2
  have first := pair.1.toNat_lt
  have second := pair.2.toNat_lt
  have figures : (writeGroup pair).mapM hexValue =
      some [pair.1.toNat / 16, pair.1.toNat % 16, pair.2.toNat / 16, pair.2.toNat % 16] := by
    simp only [writeGroup, List.map_cons, List.map_nil, List.mapM_cons, List.mapM_nil,
      value (show pair.1.toNat / 16 < 16 by omega), value (show pair.1.toNat % 16 < 16 by omega),
      value (show pair.2.toNat / 16 < 16 by omega), value (show pair.2.toNat % 16 < 16 by omega)]
    rfl
  simp only [readGroup, figures, Nat.div_add_mod, UInt8.ofNat_toNat]

theorem pairs_spec {ip : List UInt8} (even : ip.length % 2 = 0) :
    (pairs ip).length * 2 = ip.length ∧ (pairs ip).flatMap (fun pair => [pair.1, pair.2]) = ip := by
  fun_induction pairs ip with
  | case1 a b rest ih =>
    rw [List.length_cons, List.length_cons] at even
    obtain ⟨count, whole⟩ := ih (by omega)
    refine ⟨?_, ?_⟩
    · simp only [List.length_cons]
      omega
    · rw [List.flatMap_cons, whole]
      rfl
  | case2 ip short =>
    rcases ip with _ | ⟨a, _ | ⟨b, rest⟩⟩
    · exact ⟨rfl, rfl⟩
    · exact absurd even (show ¬ 1 % 2 = 0 by decide)
    · exact absurd rfl (short a b rest)

theorem pton4_ntop4_plain (ip : UInt32) : plainInet.pton4 (plainInet.ntop4 ip) = some ip := by
  have read : readFields dot readOctet ([dot].intercalate ((octets ip).map portText)) = some (octets ip) := by
    refine readFields_intercalate (List.cons_ne_nil _ _) (fun n among => ?_) (fun n _ member => ?_)
    · obtain ⟨i, _, rfl⟩ := List.mem_map.mp among
      exact readOctet_portText (Nat.mod_lt _ (by decide))
    · exact absurd (List.all_eq_true.mp (portText_decimal n).1 dot member) (by decide)
  have bound := ip.toNat_lt
  have whole : ip.toNat / 256 ^ 0 % 256 + 256 * (ip.toNat / 256 ^ 1 % 256) + 256 ^ 2 * (ip.toNat / 256 ^ 2 % 256) +
      256 ^ 3 * (ip.toNat / 256 ^ 3 % 256) = ip.toNat := by
    omega
  simp only [plainInet, read]
  exact congrArg some ((congrArg UInt32.ofNat whole).trans UInt32.ofNat_toNat)

theorem pton6_ntop6_plain {ip : List UInt8} (size : ip.length = 16) :
    plainInet.pton6 (plainInet.ntop6 ip) = some ip := by
  obtain ⟨count, whole⟩ := pairs_spec (show ip.length % 2 = 0 by omega)
  have read : readFields colon readGroup ([colon].intercalate ((pairs ip).map writeGroup)) = some (pairs ip) := by
    refine readFields_intercalate (fun empty => ?_) (fun pair _ => readGroup_writeGroup pair) (fun pair _ member => ?_)
    · rw [empty, List.length_nil] at count
      omega
    · exact absurd (isHexFigure_of_mem_writeGroup member) (by decide)
  simp only [plainInet, read, whole, if_pos (show (pairs ip).length = 8 by omega)]

theorem plainInet_standard : plainInet.Standard where
  pton4_ntop4 := pton4_ntop4_plain
  pton6_ntop6 _ size := pton6_ntop6_plain size
  chars4 ip c member := by
    rcases mem_intercalate member with sep | ⟨field, among, inside⟩
    · exact Or.inr sep
    · obtain ⟨n, _, rfl⟩ := List.mem_map.mp among
      exact Or.inl (List.all_eq_true.mp (portText_decimal n).1 c inside)
  dotted ip := by
    show dot ∈ [dot].intercalate (_ :: _ :: _)
    rw [List.intercalate_cons_cons]
    exact List.mem_append_left _ (List.mem_append_right _ List.mem_cons_self)
  short4 ip := by
    show ([dot].intercalate ((octets ip).map portText)).length < ((octets ip).map portText).length * (3 + 1)
    refine length_intercalate_lt (List.cons_ne_nil _ _) fun field among => ?_
    obtain ⟨n, inside, rfl⟩ := List.mem_map.mp among
    obtain ⟨i, _, rfl⟩ := List.mem_map.mp inside
    exact length_portText_le (by decide) (Nat.lt_of_lt_of_le (Nat.mod_lt _ (by decide)) (by decide))
  chars6 ip c member := by
    rcases mem_intercalate member with sep | ⟨field, among, inside⟩
    · exact Or.inr (Or.inr sep)
    · obtain ⟨pair, _, rfl⟩ := List.mem_map.mp among
      exact Or.inl (isHexFigure_of_mem_writeGroup inside)
  coloned ip size := by
    obtain ⟨count, _⟩ := pairs_spec (show ip.length % 2 = 0 by omega)
    show colon ∈ [colon].intercalate ((pairs ip).map writeGroup)
    rcases groups : pairs ip with _ | ⟨first, _ | ⟨second, rest⟩⟩
    · rw [groups, List.length_nil] at count
      omega
    · rw [groups, List.length_singleton] at count
      omega
    · rw [List.map_cons, List.map_cons, List.intercalate_cons_cons]
      exact List.mem_append_left _ (List.mem_append_right _ List.mem_cons_self)
  short6 ip size := by
    obtain ⟨count, _⟩ := pairs_spec (show ip.length % 2 = 0 by omega)
    have short : ([colon].intercalate ((pairs ip).map writeGroup)).length <
        ((pairs ip).map writeGroup).length * (4 + 1) := by
      refine length_intercalate_lt (fun empty => ?_) fun field among => ?_
      · rw [List.map_eq_nil_iff.mp empty, List.length_nil] at count
        omega
      · obtain ⟨pair, _, rfl⟩ := List.mem_map.mp among
        exact Nat.le_refl 4
    rw [List.length_map] at short
    show ([colon].intercalate ((pairs ip).map writeGroup)).length < 46
    omega
  pton4_colon text member := by
    have unread : readFields dot readOctet text = none :=
      readFields_none (by decide) (readOctet_foreign (by decide)) member
    simp only [plainInet, unread]
  pton6_colon text absent := by
    simp only [plainInet, readFields, List.splitOn_eq_singleton absent, List.mapM_cons, List.mapM_nil]
    cases readGroup text <;> rfl

end Plain

variable {text : List UInt8} {c : UInt8}

theorem cut_at {x : UInt8} (absent : x ∉ text) (rest : List UInt8) :
    (text ++ x :: rest).takeWhile (· != x) = text ∧ (text ++ x :: rest).dropWhile (· != x) = x :: rest := by
  have kept : ∀ c ∈ text, (c != x) = true := fun c here => bne_iff_ne.mpr fun same => absent (same ▸ here)
  refine ⟨?_, ?_⟩
  · rw [List.takeWhile_append_of_pos kept, List.takeWhile_cons_of_neg (by simp), List.append_nil]
  · rw [List.dropWhile_append_of_pos kept, List.dropWhile_cons_of_neg (by simp)]

theorem dropWhile_blank (full : ∀ c ∈ text, c ≠ blank) : text.dropWhile (· == blank) = text := by
  cases text with
  | nil => rfl
  | cons c rest =>
    have passed : (c == blank) = false := beq_eq_false_iff_ne.mpr (full c List.mem_cons_self)
    rw [List.dropWhile_cons, passed]
    rfl

theorem trimBlanks_of_full (full : ∀ c ∈ text, c ≠ blank) : trimBlanks text = text := by
  rw [trimBlanks, dropWhile_blank full, dropWhile_blank fun c member => full c (List.mem_reverse.mp member),
    List.reverse_reverse]

theorem mem_of_mem_trimBlanks (member : c ∈ trimBlanks text) : c ∈ text := by
  have back := List.mem_reverse.mp ((List.dropWhile_sublist _).mem (List.mem_reverse.mp member))
  exact (List.dropWhile_sublist _).mem back

theorem ne_of_figure (figure : isFigure c = true ∨ c = dot) : c ≠ blank ∧ c ≠ colon ∧ c ≠ openBracket := by
  rcases figure with figure | rfl
  · refine ⟨?_, ?_, ?_⟩ <;> rintro rfl <;> exact absurd figure (by decide)
  · decide

theorem ne_of_hexFigure (figure : isHexFigure c = true ∨ c = dot ∨ c = colon) :
    c ≠ blank ∧ c ≠ openBracket ∧ c ≠ closeBracket := by
  rcases figure with figure | rfl | rfl
  · refine ⟨?_, ?_, ?_⟩ <;> rintro rfl <;> exact absurd figure (by decide)
  · decide
  · decide

theorem netPort_port {a : IoaAddr} (known : a.family ≠ .unspec) : netPort (addrGetPort a).toNat = a.port := by
  have same : addrGetPort a = nswap16 a.port := by
    unfold addrGetPort
    cases family : a.family with
    | unspec => exact absurd family known
    | inet => rfl
    | inet6 => rfl
  have word : ((addrGetPort a).toNat : Int) % 2 ^ 16 = (addrGetPort a).toNat := by
    have bound := (addrGetPort a).toNat_lt
    omega
  rw [netPort, word, Int.toNat_natCast, UInt16.ofNat_toNat, same, nswap16_nswap16]

theorem makeIoaAddrFromFullString_of_cut {inet : InetText} {getaddrinfo : Resolver} {sa : List UInt8} {port : Nat}
    {before : IoaAddr} (cut : getAddrStringAndPort text = some (sa, (port : Int))) :
    makeIoaAddrFromFullString inet getaddrinfo text 0 before = makeIoaAddr inet getaddrinfo sa port := by
  have chosen : (if (port : Int) < 1 then 0 else (port : Int)) = port := by
    split <;> omega
  simp only [makeIoaAddrFromFullString, cut, chosen]

section Reading

variable {inet : InetText} (standard : inet.Standard) (getaddrinfo : Resolver)
include standard

theorem makeIoaAddr_ntop4 (ip : UInt32) (port : Int) :
    makeIoaAddr inet getaddrinfo (inet.ntop4 ip) port = (0, .inet ip (netPort port)) := by
  have short := standard.short4 ip
  have some' : inet.ntop4 ip ≠ [] := List.ne_nil_of_mem (standard.dotted ip)
  have trimmed : trimBlanks (inet.ntop4 ip) = inet.ntop4 ip :=
    trimBlanks_of_full fun c member => (ne_of_figure (standard.chars4 ip c member)).1
  simp only [makeIoaAddr, List.take_of_length_le (show (inet.ntop4 ip).length ≤ 256 by omega), trimmed, if_neg some',
    standard.pton4_ntop4]

theorem makeIoaAddr_ntop6 {ip : List UInt8} (size : ip.length = 16) (port : Int) :
    makeIoaAddr inet getaddrinfo (inet.ntop6 ip) port = (0, ⟨.inet6, netPort port, 0, ip⟩) := by
  have short := standard.short6 ip size
  have coloned := standard.coloned ip size
  have trimmed : trimBlanks (inet.ntop6 ip) = inet.ntop6 ip :=
    trimBlanks_of_full fun c member => (ne_of_hexFigure (standard.chars6 ip c member)).1
  simp only [makeIoaAddr, List.take_of_length_le (show (inet.ntop6 ip).length ≤ 256 by omega), trimmed,
    if_neg (List.ne_nil_of_mem coloned), standard.pton4_colon _ coloned, standard.pton6_ntop6 ip size]

/-- A text without a colon is no IPv6 address, and a name may not resolve. -/
theorem makeIoaAddr_no_colon {text : List UInt8} (absent : colon ∉ text) (port : Int) :
    (makeIoaAddr inet (fun _ => none) text port).1 ≠ 0 ∨
      (makeIoaAddr inet (fun _ => none) text port).2.family = .inet := by
  have absent' : colon ∉ trimBlanks (text.take 256) :=
    fun member => absent (List.mem_of_mem_take (mem_of_mem_trimBlanks member))
  unfold makeIoaAddr
  dsimp only
  split
  · exact Or.inr rfl
  · rw [standard.pton6_colon _ absent']
    cases inet.pton4 (trimBlanks (text.take 256)) with
    | some ip => exact Or.inr rfl
    | none => exact Or.inl (show (-1 : Int) ≠ 0 by decide)

theorem getAddrStringAndPort_ntop4 (ip : UInt32) :
    getAddrStringAndPort (inet.ntop4 ip) = some (inet.ntop4 ip, 0) ∧
      ∀ figures, getAddrStringAndPort (inet.ntop4 ip ++ colon :: figures) = some (inet.ntop4 ip, atoi figures) := by
  have chars := fun c member => ne_of_figure (standard.chars4 ip c member)
  have absent : colon ∉ inet.ntop4 ip := fun member => (chars colon member).2.1 rfl
  obtain ⟨first, rest, text⟩ := List.exists_cons_of_ne_nil (List.ne_nil_of_mem (standard.dotted ip))
  obtain ⟨notBlank, _, notOpen⟩ := chars first (text ▸ List.mem_cons_self)
  have unpadded (more : List UInt8) : (inet.ntop4 ip ++ more).dropWhile (· == blank) = inet.ntop4 ip ++ more := by
    rw [text, List.cons_append, List.dropWhile_cons_of_neg]
    exact fun same => notBlank (beq_iff_eq.mp same)
  have unbracketed (more : List UInt8) : (inet.ntop4 ip ++ more).head? ≠ some openBracket := by
    rw [text, List.cons_append, List.head?_cons]
    exact fun same => notOpen (Option.some.inj same)
  refine ⟨?_, fun figures => ?_⟩
  · have unpadded := unpadded []
    have unbracketed := unbracketed []
    rw [List.append_nil] at unpadded unbracketed
    simp only [getAddrStringAndPort, unpadded, if_neg unbracketed, if_neg absent]
  · obtain ⟨front, back⟩ := cut_at absent figures
    have present : colon ∈ inet.ntop4 ip ++ colon :: figures := List.mem_append_right _ List.mem_cons_self
    simp only [getAddrStringAndPort, unpadded, if_neg (unbracketed _), if_pos present, front, back, List.tail_cons]

theorem getAddrStringAndPort_bracketed (ip : List UInt8) (figures : List UInt8) :
    getAddrStringAndPort (openBracket :: inet.ntop6 ip ++ closeBracket :: colon :: figures) =
      some (inet.ntop6 ip, atoi figures) := by
  have absent : closeBracket ∉ inet.ntop6 ip :=
    fun member => (ne_of_hexFigure (standard.chars6 ip _ member)).2.2 rfl
  obtain ⟨front, back⟩ := cut_at absent (colon :: figures)
  have present : closeBracket ∈ inet.ntop6 ip ++ closeBracket :: colon :: figures :=
    List.mem_append_right _ List.mem_cons_self
  have unpadded : (openBracket :: (inet.ntop6 ip ++ closeBracket :: colon :: figures)).dropWhile (· == blank) =
      openBracket :: (inet.ntop6 ip ++ closeBracket :: colon :: figures) :=
    List.dropWhile_cons_of_neg (by decide)
  have behind : (colon :: figures).dropWhile (· == blank) = colon :: figures := List.dropWhile_cons_of_neg (by decide)
  simp only [getAddrStringAndPort, List.cons_append, unpadded, List.head?_cons, if_true, List.tail_cons, if_pos present,
    front, back, behind]

/-- Without brackets the text of an IPv6 address is cut at its first colon. -/
theorem getAddrStringAndPort_cut {ip : List UInt8} (size : ip.length = 16) :
    ∃ front port, getAddrStringAndPort (inet.ntop6 ip) = some (front, port) ∧ colon ∉ front := by
  have chars := fun c member => ne_of_hexFigure (standard.chars6 ip c member)
  have present := standard.coloned ip size
  have unpadded := dropWhile_blank fun c member => (chars c member).1
  have unbracketed : (inet.ntop6 ip).head? ≠ some openBracket :=
    fun same => (chars openBracket (List.mem_of_mem_head? same)).2.1 rfl
  refine ⟨(inet.ntop6 ip).takeWhile (· != colon), atoi ((inet.ntop6 ip).dropWhile (· != colon)).tail, ?_, ?_⟩
  · simp only [getAddrStringAndPort, unpadded, if_neg unbracketed, if_pos present]
  · intro member
    have cut := List.mem_takeWhile_imp member
    exact absurd rfl (bne_iff_ne.mp cut)

theorem addrToString_inet {a : IoaAddr} (family : a.family = .inet) : ∃ text, addrToString inet a = some text ∧
    getAddrStringAndPort text = some (inet.ntop4 a.ip4, ((addrGetPort a).toNat : Int)) := by
  have short := standard.short4 a.ip4
  obtain ⟨bare, withPort⟩ := getAddrStringAndPort_ntop4 standard a.ip4
  by_cases port : 0 < addrGetPort a
  · have figures := length_portText (addrGetPort a)
    have fits : (inet.ntop4 a.ip4 ++ colon :: portText (addrGetPort a).toNat).length ≤ maxIoaAddrString - 1 := by
      rw [List.length_append, List.length_cons, maxIoaAddrString]
      omega
    refine ⟨inet.ntop4 a.ip4 ++ colon :: portText (addrGetPort a).toNat, ?_, ?_⟩
    · simp only [addrToString, family, if_pos port, List.take_of_length_le fits]
    · rw [withPort, atoi_portText (addrGetPort a).toNat_lt]
  · have fits : (inet.ntop4 a.ip4).length ≤ maxIoaAddrString := by
      rw [maxIoaAddrString]
      omega
    refine ⟨inet.ntop4 a.ip4, ?_, ?_⟩
    · simp only [addrToString, family, if_neg port, List.take_of_length_le fits]
    · rw [bare, UInt16.not_lt.mp port |> UInt16.le_zero_iff.mp]
      rfl

theorem addrToString_inet6 {a : IoaAddr} (family : a.family = .inet6) (size : a.ip6.length = 16)
    (port : 0 < addrGetPort a) : ∃ text, addrToString inet a = some text ∧
      getAddrStringAndPort text = some (inet.ntop6 a.ip6, ((addrGetPort a).toNat : Int)) := by
  have short := standard.short6 a.ip6 size
  have figures := length_portText (addrGetPort a)
  have fits : (openBracket :: inet.ntop6 a.ip6 ++ closeBracket :: colon :: portText (addrGetPort a).toNat).length ≤
      maxIoaAddrString - 1 := by
    rw [List.length_append, List.length_cons, List.length_cons, List.length_cons, maxIoaAddrString]
    omega
  refine ⟨openBracket :: inet.ntop6 a.ip6 ++ closeBracket :: colon :: portText (addrGetPort a).toNat, ?_, ?_⟩
  · simp only [addrToString, family, if_pos port, List.take_of_length_le fits]
  · rw [getAddrStringAndPort_bracketed standard, atoi_portText (addrGetPort a).toNat_lt]

theorem roundTrips_inet {a : IoaAddr} (family : a.family = .inet) : RoundTrips inet a := by
  intro getaddrinfo before
  have known : a.family ≠ .unspec := fun unspec => nomatch family.symm.trans unspec
  obtain ⟨text, printed, cut⟩ := addrToString_inet standard family
  refine ⟨text, printed, ?_⟩
  rw [makeIoaAddrFromFullString_of_cut cut, makeIoaAddr_ntop4 standard, netPort_port known]
  refine ⟨rfl, ?_⟩
  simp only [addrEq, IoaAddr.inet, family, beq_self_eq_true, Bool.and_self]

theorem roundTrips_inet6 {a : IoaAddr} (family : a.family = .inet6) (size : a.ip6.length = 16)
    (port : 0 < addrGetPort a) : RoundTrips inet a := by
  intro getaddrinfo before
  have known : a.family ≠ .unspec := fun unspec => nomatch family.symm.trans unspec
  obtain ⟨text, printed, cut⟩ := addrToString_inet6 standard family size port
  refine ⟨text, printed, ?_⟩
  rw [makeIoaAddrFromFullString_of_cut cut, makeIoaAddr_ntop6 standard getaddrinfo size, netPort_port known]
  refine ⟨rfl, ?_⟩
  simp only [addrEq, family, beq_self_eq_true, Bool.and_self]

/-- Without a port the brackets are left out, and what stands before the first colon is read as
the address: an empty text, an IPv4 address or a name, never the address that was printed. -/
theorem not_roundTrips_of_port_zero {a : IoaAddr} (family : a.family = .inet6) (size : a.ip6.length = 16)
    (port : ¬ 0 < addrGetPort a) : ¬ RoundTrips inet a := by
  intro roundTrips
  have short := standard.short6 a.ip6 size
  have fits : (inet.ntop6 a.ip6).length ≤ maxIoaAddrString := by
    rw [maxIoaAddrString]
    omega
  obtain ⟨text, printed, returned, same⟩ := roundTrips (fun _ => none) a
  simp only [addrToString, family, if_neg port, List.take_of_length_le fits, Option.some.injEq] at printed
  subst printed
  obtain ⟨front, number, cut, absent⟩ := getAddrStringAndPort_cut standard size
  simp only [makeIoaAddrFromFullString, cut] at returned same
  rcases makeIoaAddr_no_colon standard absent (if number < 1 then 0 else number) with failed | inet4
  · exact failed returned
  · simp only [addrEq, inet4, family, Bool.and_eq_true, beq_iff_eq] at same
    exact nomatch same.1

/-- An address is read back from its text exactly when it is an IPv4 address or has a port. -/
theorem addrToString_round_trips_iff {a : IoaAddr}
    (known : a.family = .inet ∨ a.family = .inet6 ∧ a.ip6.length = 16) :
    RoundTrips inet a ↔ a.family = .inet ∨ addrGetPort a ≠ 0 := by
  rcases known with family | ⟨family, size⟩
  · exact ⟨fun _ => Or.inl family, fun _ => roundTrips_inet standard family⟩
  · refine ⟨fun roundTrips => Or.inr fun zero => ?_, fun condition => ?_⟩
    · exact not_roundTrips_of_port_zero standard family size (zero ▸ UInt16.lt_irrefl 0) roundTrips
    · rcases condition with inet4 | nonzero
      · exact nomatch inet4.symm.trans family
      · exact roundTrips_inet6 standard family size (UInt16.pos_iff_ne_zero.mpr nonzero)

end Reading

/-- The address `fd12:3456:789a:bcde:f123:4567:89ab:cdef`, whose text has nothing to leave out. -/
def exampleInet6 : List UInt8 :=
  [0xFD, 0x12, 0x34, 0x56, 0x78, 0x9A, 0xBC, 0xDE, 0xF1, 0x23, 0x45, 0x67, 0x89, 0xAB, 0xCD, 0xEF]

theorem addrToString_round_trips_full :
    exampleInet6.length = 16 ∧ RoundTrips plainInet ⟨.inet6, nswap16 3478, 0, exampleInet6⟩ :=
  ⟨by decide, (addrToString_round_trips_iff plainInet_standard (Or.inr ⟨rfl, by decide⟩)).mpr (Or.inr (by decide))⟩

/-- Without a port the address is printed without brackets, and is not read back. -/
theorem addrToString_portless_inet6 : ¬ ∀ (inet : InetText) (a : IoaAddr), inet.Standard →
    (a.family = .inet ∨ a.family = .inet6 ∧ a.ip6.length = 16) → RoundTrips inet a := by
  intro roundTrips
  have portless := roundTrips plainInet ⟨.inet6, 0, 0, exampleInet6⟩ plainInet_standard (Or.inr ⟨rfl, by decide⟩)
  exact not_roundTrips_of_port_zero plainInet_standard rfl (by decide) (by decide) portless

end TurnCluster
