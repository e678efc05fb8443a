import Micboard.LibraryAddress
import Micboard.LibraryTable
import Mathlib.Data.List.GetD
import Mathlib.Data.List.Induction
import Mathlib.Tactic.Ring
import Mathlib.Tactic.NormNum

/-! Reading a formatted address back: the canonical text of an address parses to the address, so the
canonical form of a canonical text is the text itself. -/

namespace Library.Address

open Library.Text

theorem digitChar_hex {d : Nat} (hd : d < 16) :
    isHexDigit d.digitChar = true ∧ hexDigitValue d.digitChar = d ∧ d.digitChar ≠ ':' ∧
      d.digitChar ≠ '.' ∧ d.digitChar ≠ '%' ∧ d.digitChar ≠ '/' := by
  revert d
  decide

theorem mem_hexadecimal {n : Nat} {c : Char} (hc : c ∈ hexadecimal n) :
    ∃ d < 16, c = Nat.digitChar d := by
  induction n using Nat.strong_induction_on with
  | _ n ih =>
      rw [hexadecimal, Nat.toDigits_eq_if (by omega)] at hc
      split at hc
      next hlt => exact ⟨n, hlt, List.mem_singleton.mp hc⟩
      next hge =>
        rcases List.mem_append.mp hc with hfront | hlast
        · exact ih (n / 16) (by omega) hfront
        · exact ⟨n % 16, by omega, List.mem_singleton.mp hlast⟩

theorem hexValue_hexadecimal (n : Nat) : hexValue (hexadecimal n) = n := by
  induction n using Nat.strong_induction_on with
  | _ n ih =>
      rw [hexadecimal, Nat.toDigits_eq_if (by omega)]
      split
      next hlt =>
        simp only [hexValue, List.foldl_cons, List.foldl_nil, (digitChar_hex hlt).2.1]
        omega
      next hge =>
        have hfront := ih (n / 16) (by omega)
        have hlast := (digitChar_hex (d := n % 16) (by omega)).2.1
        rw [hexadecimal, hexValue] at hfront
        rw [hexValue, List.foldl_append, hfront, List.foldl_cons, List.foldl_nil, hlast]
        omega

theorem hexadecimal_ne_nil (n : Nat) : hexadecimal n ≠ [] := Nat.toDigits_ne_nil

theorem parseHextet_hexadecimal {n : Nat} (hn : n < 65536) :
    parseHextet (hexadecimal n) = some n := by
  have hall : (hexadecimal n).all isHexDigit = true := by
    rw [List.all_eq_true]
    intro c hc
    obtain ⟨d, hd, rfl⟩ := mem_hexadecimal hc
    exact (digitChar_hex hd).1
  have hlength : (hexadecimal n).length ≤ 4 := by
    rw [hexadecimal, Nat.length_toDigits_le_iff (by omega) (by omega)]
    exact hn
  simp only [parseHextet, hall, hlength, decide_true, Bool.and_self, if_true, hexValue_hexadecimal]

theorem octet_roundtrip : ∀ n < 256, parseOctet (decimal n) = some n ∧
    ∀ c ∈ decimal n, c ≠ '.' ∧ c ≠ ':' ∧ c ≠ '%' ∧ c ≠ '/' := by
  have hall : ∀ n < 256, parseOctet (decimal n) = some n ∧
      (decimal n).Forall fun c => c ≠ '.' ∧ c ≠ ':' ∧ c ≠ '%' ∧ c ≠ '/' := by decide +kernel
  intro n hn
  exact ⟨(hall n hn).1, List.forall_iff_forall_mem.mp (hall n hn).2⟩

theorem mapM_some_of_forall {α β : Type} {f : α → Option β} {g : β → α} {values : List β}
    (h : ∀ value ∈ values, f (g value) = some value) : (values.map g).mapM f = some values := by
  induction values with
  | nil => rfl
  | cons value rest ih =>
      have hhead := h value List.mem_cons_self
      have htail := ih fun v hv => h v (List.mem_cons_of_mem _ hv)
      simp [List.mapM_cons, hhead, htail]

def octets (address : Nat) : List Nat :=
  [address / 256 ^ 3 % 256, address / 256 ^ 2 % 256, address / 256 % 256, address % 256]

theorem octet_lt {address octet : Nat} (h : octet ∈ octets address) : octet < 256 := by
  simp only [octets, List.mem_cons, List.not_mem_nil, or_false] at h
  omega

theorem formatIPv4_eq (address : Nat) : formatIPv4 address = join '.' ((octets address).map decimal) :=
  rfl

theorem parseIPv4_formatIPv4 {address : Nat} (h : address < 2 ^ 32) :
    parseIPv4 (formatIPv4 address) = some address := by
  have hsplit : (formatIPv4 address).splitOn '.' = (octets address).map decimal := by
    rw [formatIPv4_eq, join]
    apply List.splitOn_intercalate
    · intro part hpart hdot
      obtain ⟨octet, hoctet, rfl⟩ := List.mem_map.mp hpart
      exact ((octet_roundtrip octet (octet_lt hoctet)).2 '.' hdot).1 rfl
    · simp [octets]
  rw [parseIPv4, hsplit, mapM_some_of_forall fun octet hoctet =>
    (octet_roundtrip octet (octet_lt hoctet)).1]
  simp only [octets]
  congr 1
  omega

/-- The characters of a joined text are the separator and those of the parts. -/
theorem mem_join {sep c : Char} {parts : List (List Char)} (h : c ∈ join sep parts) :
    c = sep ∨ ∃ part ∈ parts, c ∈ part := by
  induction parts with
  | nil => simp [join] at h
  | cons part rest ih =>
      cases rest with
      | nil =>
          rw [join, List.intercalate_singleton] at h
          exact .inr ⟨part, List.mem_cons_self, h⟩
      | cons next rest =>
          rw [join, List.intercalate_cons_cons, List.mem_append, List.mem_append,
            List.mem_singleton] at h
          rcases h with (h | h) | h
          · exact .inr ⟨part, List.mem_cons_self, h⟩
          · exact .inl h
          · rcases ih h with h | ⟨p, hp, hc⟩
            · exact .inl h
            · exact .inr ⟨p, List.mem_cons_of_mem _ hp, hc⟩

theorem join_append {sep : Char} {front back : List (List Char)} (hfront : front ≠ [])
    (hback : back ≠ []) : join sep (front ++ back) = join sep front ++ [sep] ++ join sep back := by
  induction front with
  | nil => exact absurd rfl hfront
  | cons part rest ih =>
      cases rest with
      | nil =>
          rw [List.singleton_append, join, join, join, List.intercalate_singleton,
            List.intercalate_cons_of_ne_nil hback]
      | cons next rest =>
          have hne : (next :: rest) ++ back ≠ [] := by simp
          have htail := ih (by simp)
          simp only [join] at htail ⊢
          rw [List.cons_append, List.intercalate_cons_of_ne_nil hne, htail,
            List.intercalate_cons_cons]
          simp only [List.append_assoc]

theorem hextet_lt {address hextet : Nat} (h : hextet ∈ hextets address) : hextet < 65536 := by
  obtain ⟨i, -, rfl⟩ := List.mem_map.mp h
  exact Nat.mod_lt _ (by omega)

theorem hextets_length (address : Nat) : (hextets address).length = 8 := by simp [hextets]

/-- The low parts of an address read as what it is modulo their width. -/
theorem foldl_pushHextet_range (address n : Nat) :
    ((List.range n).map fun i => address / 65536 ^ (n - 1 - i) % 65536).foldl pushHextet 0 =
      address % 65536 ^ n := by
  induction n generalizing address with
  | zero => simp [Nat.mod_one]
  | succ n ih =>
      -- all parts but the last are those of the address without its lowest hextet
      have hhigh : (List.range n).map (fun i => address / 65536 ^ (n + 1 - 1 - i) % 65536) =
          (List.range n).map fun i => address / 65536 / 65536 ^ (n - 1 - i) % 65536 := by
        refine List.map_congr_left fun i hi => ?_
        have hlt := List.mem_range.mp hi
        have hexponent : n + 1 - 1 - i = n - 1 - i + 1 := by omega
        rw [hexponent, pow_succ', Nat.div_div_eq_div_mul]
      rw [List.range_succ, List.map_append, List.foldl_append, hhigh, ih, List.map_singleton,
        List.foldl_cons, List.foldl_nil, pushHextet, Nat.add_sub_cancel, Nat.sub_self,
          pow_zero, Nat.div_one,
        pow_succ', Nat.mod_mul, Nat.add_comm, Nat.mul_comm]

theorem foldl_pushHextet_hextets {address : Nat} (h : address < 2 ^ 128) :
    (hextets address).foldl pushHextet 0 = address := by
  have hlow : address % 65536 ^ 8 = address := Nat.mod_eq_of_lt h
  exact (foldl_pushHextet_range address 8).trans hlow

theorem foldl_pushHextet_replicate (value n : Nat) :
    (List.replicate n 0).foldl pushHextet value = value * 65536 ^ n := by
  induction n generalizing value with
  | zero => simp
  | succ n ih =>
      rw [List.replicate_succ, List.foldl_cons, ih, pushHextet, pow_succ]
      ring

def ZeroRun (parts : List Nat) (start length : Nat) : Prop :=
  start + length ≤ parts.length ∧ ∀ i, start ≤ i → i < start + length → parts[i]? = some 0

theorem ZeroRun.append {parts : List Nat} {start length : Nat} (h : ZeroRun parts start length)
    (rest : List Nat) : ZeroRun (parts ++ rest) start length := by
  refine ⟨?_, fun i hstart hend => ?_⟩
  · have := h.1
    rw [List.length_append]
    omega
  · have := h.1
    rw [List.getElem?_append_left (by omega)]
    exact h.2 i hstart hend

theorem ZeroRun.extend {parts : List Nat} {start length : Nat} (h : ZeroRun parts start length)
    (hend : start + length = parts.length) : ZeroRun (parts ++ [0]) start (length + 1) := by
  refine ⟨?_, fun i hstart hlt => ?_⟩
  · rw [List.length_append, List.length_singleton]
    omega
  · by_cases hi : i < parts.length
    · rw [List.getElem?_append_left hi]
      exact h.2 i hstart (by omega)
    · have heq : i = parts.length := by omega
      rw [heq, List.getElem?_append_right (by omega)]
      simp

theorem zeroRun_nil (parts : List Nat) : ZeroRun parts parts.length 0 := by
  refine ⟨by omega, fun i hstart hend => ?_⟩
  omega

/-- What the scan knows of the hextets it has seen. -/
structure ScanInv (seen : List Nat) (state : (Nat × Nat) × Nat × Nat × Nat) : Prop where
  best : ZeroRun seen state.1.1 state.1.2
  index : state.2.2.2 = seen.length
  current : state.2.2.1 ≠ 0 →
    ZeroRun seen state.2.1 state.2.2.1 ∧ state.2.1 + state.2.2.1 = seen.length

theorem ScanInv.step {seen : List Nat} {state : (Nat × Nat) × Nat × Nat × Nat}
    (h : ScanInv seen state) (hextet : Nat) :
    ScanInv (seen ++ [hextet]) (zeroRunStep state hextet) := by
  obtain ⟨best, start, length, index⟩ := state
  have hindex : index = seen.length := h.index
  by_cases hzero : hextet = 0
  · subst hzero
    have hrun : ZeroRun (seen ++ [0]) (if length = 0 then index else start) (length + 1) ∧
        (if length = 0 then index else start) + (length + 1) = (seen ++ [0]).length := by
      rw [List.length_append, List.length_singleton]
      by_cases hlength : length = 0
      · rw [if_pos hlength, hlength, hindex]
        exact ⟨(zeroRun_nil seen).extend (by omega), by omega⟩
      · rw [if_neg hlength]
        obtain ⟨hcurrent, hend⟩ := h.current hlength
        exact ⟨hcurrent.extend hend, by simp only at hend; omega⟩
    simp only [zeroRunStep, if_true]
    refine ⟨?_, by simp [hindex], fun _ => hrun⟩
    by_cases hbetter : best.2 < length + 1
    · simp only [hbetter, if_true]
      exact hrun.1
    · simp only [hbetter, if_false]
      exact h.best.append [0]
  · simp only [zeroRunStep, hzero, if_false]
    exact ⟨h.best.append _, by simp [hindex], fun hne => absurd rfl hne⟩

theorem longestZeroRun_zeroRun (parts : List Nat) :
    ZeroRun parts (longestZeroRun parts).1 (longestZeroRun parts).2 := by
  suffices h : ∀ rest seen state, ScanInv seen state →
      ScanInv (seen ++ rest) (rest.foldl zeroRunStep state) by
    have hstart : ScanInv [] ((0, 0), 0, 0, 0) :=
      ⟨zeroRun_nil [], rfl, fun hne => absurd rfl hne⟩
    exact (h parts [] _ hstart).best
  intro rest
  induction rest with
  | nil =>
      intro seen state h
      simpa using h
  | cons hextet rest ih =>
      intro seen state h
      have hrest := ih _ _ (h.step hextet)
      rw [List.append_assoc, List.singleton_append] at hrest
      exact hrest

/-- A list with a run of zeros is what stands before it, the zeros, and what follows. -/
theorem ZeroRun.split {parts : List Nat} {start length : Nat} (h : ZeroRun parts start length) :
    parts = parts.take start ++ (List.replicate length 0 ++ parts.drop (start + length)) := by
  obtain ⟨hle, hzero⟩ := h
  have hmiddle : (parts.drop start).take length = List.replicate length 0 := by
    apply List.ext_getElem?
    intro i
    by_cases hi : i < length
    · rw [List.getElem?_take_of_lt hi, List.getElem?_drop, hzero (start + i) (by omega) (by omega),
        List.getElem?_replicate, if_pos hi]
    · rw [List.getElem?_eq_none (by simp; omega), List.getElem?_eq_none (by simp; omega)]
  calc parts = parts.take start ++ parts.drop start := (List.take_append_drop start parts).symm
    _ = parts.take start ++ ((parts.drop start).take length ++ (parts.drop start).drop length) := by
      rw [List.take_append_drop length]
    _ = _ := by rw [hmiddle, List.drop_drop]

/-- The parts at one side of `::`, where no hextet at all reads as one empty part. -/
def sideParts (parts : List (List Char)) : List (List Char) := if parts = [] then [[]] else parts

section SideParts

variable {parts : List (List Char)}

theorem sideParts_ne_nil : sideParts parts ≠ [] := by
  rw [sideParts]
  split
  next => simp
  next h => exact h

theorem sideParts_length_pos : 0 < (sideParts parts).length :=
  List.length_pos_iff.mpr sideParts_ne_nil

theorem sideParts_length_le : (sideParts parts).length ≤ max parts.length 1 := by
  rw [sideParts]
  split
  next => simp
  next => exact Nat.le_max_left _ _

theorem join_sideParts (sep : Char) : join sep (sideParts parts) = join sep parts := by
  rw [sideParts]
  split
  next h => rw [h]; rfl
  next => rfl

theorem mem_sideParts {part : List Char} (h : part ∈ sideParts parts) : part = [] ∨ part ∈ parts := by
  rw [sideParts] at h
  split at h
  next => exact .inl (List.mem_singleton.mp h)
  next => exact .inr h

variable (hne : ∀ part ∈ parts, part ≠ [])
include hne

/-- Only a side without hextets holds an empty part, and that part is then its only one. -/
theorem getD_sideParts {i : Nat} (hi : i < (sideParts parts).length)
    (hinner : 1 < (sideParts parts).length) : (sideParts parts).getD i ['0'] ≠ [] := by
  by_cases hparts : parts = []
  · rw [sideParts, if_pos hparts] at hinner
    simp at hinner
  · rw [sideParts, if_neg hparts] at hi ⊢
    rw [List.getD_eq_getElem _ _ hi]
    exact hne _ (List.getElem_mem hi)

theorem head?_sideParts : (sideParts parts).head? = some [] ↔ parts = [] := by
  by_cases hparts : parts = []
  · simp [sideParts, hparts]
  · rw [sideParts, if_neg hparts]
    constructor
    · intro h
      exact absurd rfl (hne [] (List.mem_of_mem_head? (by rw [h]; rfl)))
    · intro h
      exact absurd h hparts

theorem getLast?_sideParts : (sideParts parts).getLast? = some [] ↔ parts = [] := by
  by_cases hparts : parts = []
  · simp [sideParts, hparts]
  · rw [sideParts, if_neg hparts]
    constructor
    · intro h
      exact absurd rfl (hne [] (List.mem_of_getLast? h))
    · intro h
      exact absurd h hparts

end SideParts

section Layout

variable {front back : List (List Char)} (hfront : ∀ part ∈ front, part ≠ [])
  (hback : ∀ part ∈ back, part ≠ [])
include hfront hback

/-- The only empty inner part is the one `::` leaves. -/
theorem skipIndices_sides :
    skipIndices (sideParts front ++ [] :: sideParts back) = [(sideParts front).length] := by
  have hfrontPos : 0 < (sideParts front).length := sideParts_length_pos
  have hbackPos : 0 < (sideParts back).length := sideParts_length_pos
  have hunique : UniqueOn id
      (List.range (sideParts front ++ [] :: sideParts back).length) := by
    rw [UniqueOn, List.map_id]
    exact List.nodup_range
  rw [skipIndices]
  apply hunique.filter_eq_singleton
  · rw [List.mem_range, List.length_append, List.length_cons]
    omega
  · simp only [List.length_append, List.length_cons, Bool.and_eq_true, decide_eq_true_eq]
    refine ⟨⟨by omega, by omega⟩, ?_⟩
    rw [List.getD_append_right _ _ _ _ (by omega), Nat.sub_self]
    rfl
  · intro i hi hempty
    simp only [List.length_append, List.length_cons, Bool.and_eq_true, decide_eq_true_eq] at hempty
    obtain ⟨⟨hfirst, hlast⟩, hempty⟩ := hempty
    show i = (sideParts front).length
    by_contra hne
    by_cases hside : i < (sideParts front).length
    · rw [List.getD_append _ _ _ _ hside] at hempty
      exact getD_sideParts hfront hside (by omega) hempty
    · obtain ⟨j, rfl⟩ : ∃ j, i = (sideParts front).length + (j + 1) :=
        ⟨i - (sideParts front).length - 1, by omega⟩
      rw [List.getD_append_right _ _ _ _ (by omega), Nat.add_sub_cancel_left,
        List.getD_cons_succ] at hempty
      exact getD_sideParts hback (by omega) (by omega) hempty

theorem hextetLayout_sides (hlength : front.length + back.length < 8) :
    hextetLayout (sideParts front ++ [] :: sideParts back) =
      some (front, 8 - (front.length + back.length), back) := by
  have htake : (sideParts front ++ [] :: sideParts back).take (sideParts front).length =
      sideParts front := List.take_left
  have hdrop : (sideParts front ++ [] :: sideParts back).drop ((sideParts front).length + 1) =
      sideParts back := by
    rw [← List.drop_drop, List.drop_left, List.drop_one, List.tail_cons]
  have hlone : ∀ parts : List (List Char), parts = [] → ¬ 1 < (sideParts parts).length := by
    rintro parts rfl
    simp [sideParts]
  have hkeep : ∀ parts : List (List Char), parts ≠ [] → sideParts parts = parts := fun parts h =>
    if_neg h
  rw [hextetLayout, skipIndices_sides hfront hback]
  simp only [htake, hdrop, head?_sideParts hfront, getLast?_sideParts hback]
  have hcolons : ¬ ((decide (front = []) && decide (1 < (sideParts front).length) ||
      decide (back = []) && decide (1 < (sideParts back).length)) = true) := by
    simp only [Bool.or_eq_true, Bool.and_eq_true, decide_eq_true_eq, not_or, not_and]
    exact ⟨hlone front, hlone back⟩
  rw [if_neg hcolons]
  have hhi : (if front = [] then [] else sideParts front) = front := by
    split
    next h => exact h.symm
    next h => exact hkeep front h
  have hlo : (if back = [] then [] else sideParts back) = back := by
    split
    next h => exact h.symm
    next h => exact hkeep back h
  rw [hhi, hlo, if_pos hlength]

end Layout

theorem expandIPv4Suffix_of_forall {parts : List (List Char)} (h : ∀ part ∈ parts, '.' ∉ part) :
    expandIPv4Suffix parts = some parts := by
  rw [expandIPv4Suffix]
  cases hlast : parts.getLast? with
  | none => rfl
  | some suffix => exact if_neg (h suffix (List.mem_of_getLast? hlast))

/-- The address of a text whose parts, after the expansion of an IPv4 suffix, have a known layout. -/
theorem parseIPv6_of_layout {text : List Char} {raw parts : List (List Char)} {hi lo : List Nat}
    {skipped : Nat} (hsplit : text.splitOn ':' = raw) (hraw : 3 ≤ raw.length)
    (hexpand : expandIPv4Suffix raw = some parts) (hparts : parts.length ≤ 9)
    (hlayout : hextetLayout parts = some (hi.map hexadecimal, skipped, lo.map hexadecimal))
    (hhi : ∀ hextet ∈ hi, hextet < 65536) (hlo : ∀ hextet ∈ lo, hextet < 65536) :
    parseIPv6 text = some (lo.foldl pushHextet (hi.foldl pushHextet 0 * 65536 ^ skipped)) := by
  have hhi' : (hi.map hexadecimal).mapM parseHextet = some hi :=
    mapM_some_of_forall fun hextet h => parseHextet_hexadecimal (hhi hextet h)
  have hlo' : (lo.map hexadecimal).mapM parseHextet = some lo :=
    mapM_some_of_forall fun hextet h => parseHextet_hexadecimal (hlo hextet h)
  have hshort : ¬ raw.length < 3 := by omega
  have hlong : ¬ 9 < parts.length := by omega
  simp [parseIPv6, hsplit, hshort, hexpand, hlong, hlayout, hhi', hlo']

theorem hexadecimal_plain {hextets : List Nat} {part : List Char}
    (h : part ∈ hextets.map hexadecimal) :
    part ≠ [] ∧ ':' ∉ part ∧ '.' ∉ part := by
  obtain ⟨hextet, -, rfl⟩ := List.mem_map.mp h
  refine ⟨hexadecimal_ne_nil hextet, fun hc => ?_, fun hc => ?_⟩
  · obtain ⟨d, hd, heq⟩ := mem_hexadecimal hc
    exact (digitChar_hex hd).2.2.1 heq.symm
  · obtain ⟨d, hd, heq⟩ := mem_hexadecimal hc
    exact (digitChar_hex hd).2.2.2.1 heq.symm

/-- The parts of a text with `::` between two sides of hexadecimal numerals. -/
theorem splitOn_sides {front back : List Nat} :
    (join ':' (front.map hexadecimal) ++ [':', ':'] ++ join ':' (back.map hexadecimal)).splitOn ':' =
      sideParts (front.map hexadecimal) ++ [] :: sideParts (back.map hexadecimal) := by
  have htext : join ':' (front.map hexadecimal) ++ [':', ':'] ++ join ':' (back.map hexadecimal) =
      join ':' (sideParts (front.map hexadecimal) ++ [] :: sideParts (back.map hexadecimal)) := by
    have hcons : join ':' ([] :: sideParts (back.map hexadecimal)) =
        [':'] ++ join ':' (sideParts (back.map hexadecimal)) := by
      rw [join, join, List.intercalate_cons_of_ne_nil sideParts_ne_nil, List.nil_append]
    rw [join_append sideParts_ne_nil (by simp), hcons, join_sideParts, join_sideParts]
    simp
  rw [htext, join]
  apply List.splitOn_intercalate
  · intro part hpart
    have hsides : part = [] ∨ part ∈ front.map hexadecimal ∨ part ∈ back.map hexadecimal := by
      rcases List.mem_append.mp hpart with h | h
      · exact (mem_sideParts h).imp_right .inl
      · rcases List.mem_cons.mp h with h | h
        · exact .inl h
        · exact (mem_sideParts h).imp_right .inr
    rcases hsides with rfl | h | h
    · simp
    · exact (hexadecimal_plain h).2.1
    · exact (hexadecimal_plain h).2.1
  · simp

theorem parseIPv6_sides {front back : List Nat} (hlength : front.length + back.length < 8)
    (hfront : ∀ hextet ∈ front, hextet < 65536) (hback : ∀ hextet ∈ back, hextet < 65536) :
    parseIPv6 (join ':' (front.map hexadecimal) ++ [':', ':'] ++ join ':' (back.map hexadecimal)) =
      some (back.foldl pushHextet
        (front.foldl pushHextet 0 * 65536 ^ (8 - (front.length + back.length)))) := by
  have hlayout := hextetLayout_sides
    (fun part (h : part ∈ front.map hexadecimal) => (hexadecimal_plain h).1)
    (fun part (h : part ∈ back.map hexadecimal) => (hexadecimal_plain h).1) (by simpa using hlength)
  simp only [List.length_map] at hlayout
  refine parseIPv6_of_layout splitOn_sides ?_ (expandIPv4Suffix_of_forall ?_) ?_ hlayout hfront hback
  · have hfrontPos : 0 < (sideParts (front.map hexadecimal)).length := sideParts_length_pos
    have hbackPos : 0 < (sideParts (back.map hexadecimal)).length := sideParts_length_pos
    rw [List.length_append, List.length_cons]
    omega
  · intro part hpart
    rcases List.mem_append.mp hpart with h | h
    · rcases mem_sideParts h with rfl | h
      · simp
      · exact (hexadecimal_plain h).2.2
    · rcases List.mem_cons.mp h with rfl | h
      · simp
      · rcases mem_sideParts h with rfl | h
        · simp
        · exact (hexadecimal_plain h).2.2
  · have hfrontLength : (sideParts (front.map hexadecimal)).length ≤
        max (front.map hexadecimal).length 1 := sideParts_length_le
    have hbackLength : (sideParts (back.map hexadecimal)).length ≤
        max (back.map hexadecimal).length 1 := sideParts_length_le
    rw [List.length_map] at hfrontLength hbackLength
    rw [List.length_append, List.length_cons]
    omega

/-- The text of eight hextets reads as them. -/
theorem parseIPv6_formatHextets {parts : List Nat} (hlength : parts.length = 8)
    (hparts : ∀ hextet ∈ parts, hextet < 65536) :
    parseIPv6 (formatHextets parts) = some (parts.foldl pushHextet 0) := by
  have hrun := longestZeroRun_zeroRun parts
  rw [formatHextets]
  generalize longestZeroRun parts = run at hrun
  obtain ⟨start, length⟩ := run
  by_cases hcompress : 1 < length
  · have hle := hrun.1
    have hsplit : parts = parts.take start ++
        (List.replicate length 0 ++ parts.drop (start + length)) := hrun.split
    have hcount : (parts.take start).length + (parts.drop (start + length)).length = 8 - length := by
      rw [List.length_take, List.length_drop]
      omega
    simp only [hcompress, if_true]
    rw [parseIPv6_sides (by omega) (fun hextet h => hparts hextet (List.mem_of_mem_take h))
      fun hextet h => hparts hextet (List.mem_of_mem_drop h)]
    have hskipped : 8 - ((parts.take start).length + (parts.drop (start + length)).length) =
        length := by omega
    rw [hskipped, ← foldl_pushHextet_replicate, ← List.foldl_append, ← List.foldl_append, ← hsplit]
  · simp only [hcompress, if_false]
    have hplain : ∀ part ∈ parts.map hexadecimal, part ≠ [] ∧ ':' ∉ part ∧ '.' ∉ part :=
      fun part h => hexadecimal_plain h
    have hne : parts.map hexadecimal ≠ [] := by
      intro hnil
      have := congrArg List.length hnil
      simp [hlength] at this
    have hsplit : (join ':' (parts.map hexadecimal)).splitOn ':' = parts.map hexadecimal := by
      rw [join]
      exact List.splitOn_intercalate _ (fun part h => (hplain part h).2.1) hne
    have hskip : skipIndices (parts.map hexadecimal) = [] := by
      rw [skipIndices, List.filter_eq_nil_iff]
      intro i hi
      rw [List.mem_range] at hi
      rw [List.getD_eq_getElem _ _ hi]
      simp [hexadecimal_ne_nil]
    have hlayout : hextetLayout (parts.map hexadecimal) =
        some (parts.map hexadecimal, 0, ([] : List Nat).map hexadecimal) := by
      have hhead : (parts.map hexadecimal).head? ≠ some [] := by
        intro h
        exact (hplain [] (List.mem_of_mem_head? (by rw [h]; rfl))).1 rfl
      have hlast : (parts.map hexadecimal).getLast? ≠ some [] := by
        intro h
        exact (hplain [] (List.mem_of_getLast? h)).1 rfl
      rw [hextetLayout, hskip]
      simp only [List.length_map, hlength, hhead, hlast, ne_eq, not_false_eq_true, decide_true,
        Bool.and_self, if_true, List.map_nil]
    rw [parseIPv6_of_layout hsplit (by simp [hlength])
      (expandIPv4Suffix_of_forall fun part h => (hplain part h).2.2) (by simp [hlength]) hlayout
      hparts (by simp)]
    simp

theorem formatIPv4_plain {address : Nat} {c : Char} (h : c ∈ formatIPv4 address) :
    c ≠ ':' ∧ c ≠ '%' ∧ c ≠ '/' := by
  rw [formatIPv4_eq] at h
  rcases mem_join h with rfl | ⟨part, hpart, hc⟩
  · decide
  · obtain ⟨octet, hoctet, rfl⟩ := List.mem_map.mp hpart
    exact ((octet_roundtrip octet (octet_lt hoctet)).2 c hc).2

theorem dot_mem_formatIPv4 (address : Nat) : '.' ∈ formatIPv4 address := by
  simp [formatIPv4, join]

theorem parseIPv6_formatIPv6 {address : Nat} (h : address < 2 ^ 128) :
    parseIPv6 (formatIPv6 address) = some address := by
  rw [formatIPv6]
  by_cases hmapped : address / 2 ^ 32 = 0xFFFF
  · rw [if_pos hmapped, hmapped]
    have hfront : formatHextets (hextets 0xFFFF) = [':', ':', 'f', 'f', 'f', 'f'] := by
      decide +kernel
    have hffff : hexadecimal 0xFFFF = ['f', 'f', 'f', 'f'] := by decide +kernel
    have hlow : address % 2 ^ 32 < 2 ^ 32 := Nat.mod_lt _ (by omega)
    have haddress : address = 0xFFFF * 2 ^ 32 + address % 2 ^ 32 := by omega
    generalize address % 2 ^ 32 = low at hlow haddress ⊢
    have hraw : (formatHextets (hextets 0xFFFF) ++ [':'] ++ formatIPv4 low).splitOn ':' =
        [[], [], ['f', 'f', 'f', 'f'], formatIPv4 low] := by
      have htext : formatHextets (hextets 0xFFFF) ++ [':'] ++ formatIPv4 low =
          join ':' [[], [], ['f', 'f', 'f', 'f'], formatIPv4 low] := by
        rw [hfront]
        simp [join]
      rw [htext, join]
      apply List.splitOn_intercalate
      · intro part hpart hcolon
        simp only [List.mem_cons, List.not_mem_nil, or_false] at hpart
        rcases hpart with rfl | rfl | rfl | rfl
        · cases hcolon
        · cases hcolon
        · exact absurd hcolon (by decide)
        · exact (formatIPv4_plain hcolon).1 rfl
      · simp
    have hexpand : expandIPv4Suffix [[], [], ['f', 'f', 'f', 'f'], formatIPv4 low] =
        some (sideParts [] ++ [] ::
          sideParts ([0xFFFF, low / 65536, low % 65536].map hexadecimal)) := by
      have hsuffix : [[], [], ['f', 'f', 'f', 'f'], formatIPv4 low].getLast? =
          some (formatIPv4 low) := rfl
      rw [expandIPv4Suffix, hsuffix]
      simp only [dot_mem_formatIPv4, if_true, parseIPv4_formatIPv4 hlow, Option.map_some]
      simp [sideParts, hffff]
    have hlayout : hextetLayout (sideParts [] ++ [] ::
        sideParts ([0xFFFF, low / 65536, low % 65536].map hexadecimal)) =
          some (([] : List Nat).map hexadecimal, 5,
            [0xFFFF, low / 65536, low % 65536].map hexadecimal) :=
      hextetLayout_sides (fun part h => absurd h List.not_mem_nil)
        (fun part h => (hexadecimal_plain h).1) (by simp)
    rw [parseIPv6_of_layout hraw (by simp) hexpand (by simp [sideParts]) hlayout (by simp)]
    · simp only [List.foldl_cons, List.foldl_nil, pushHextet]
      congr 1
      omega
    · intro hextet hmem
      simp only [List.mem_cons, List.not_mem_nil, or_false] at hmem
      omega
  · rw [if_neg hmapped, parseIPv6_formatHextets (hextets_length address) fun hextet => hextet_lt,
      foldl_pushHextet_hextets h]

theorem hexValue_lt {digits : List Char} (h : ∀ c ∈ digits, isHexDigit c = true) :
    hexValue digits < 16 ^ digits.length := by
  induction digits using List.reverseRecOn with
  | nil => simp [hexValue]
  | append_singleton digits c ih =>
      have hfront := ih fun d hd => h d (List.mem_append_left _ hd)
      have hlast := hexDigitValue_lt (h c (by simp))
      have happend : hexValue (digits ++ [c]) = 16 * hexValue digits + hexDigitValue c := by
        simp only [hexValue, List.foldl_append, List.foldl_cons, List.foldl_nil]
      rw [happend, List.length_append, List.length_singleton, pow_succ]
      omega

theorem parseHextet_lt {hextet : List Char} {value : Nat} (h : parseHextet hextet = some value) :
    value < 65536 := by
  rw [parseHextet] at h
  split at h
  next hvalid =>
    cases h
    simp only [Bool.and_eq_true, List.all_eq_true, decide_eq_true_eq] at hvalid
    have hlt := hexValue_lt hvalid.1
    have hpow : 16 ^ hextet.length ≤ 16 ^ 4 := Nat.pow_le_pow_right (by omega) hvalid.2
    omega
  next => cases h

theorem mapM_length {α β : Type} {f : α → Option β} {values : List α} {results : List β}
    (h : values.mapM f = some results) :
    results.length = values.length ∧ ∀ result ∈ results, ∃ value ∈ values, f value = some result := by
  induction values generalizing results with
  | nil =>
      cases h
      simp
  | cons value rest ih =>
      simp only [List.mapM_cons, Option.bind_eq_bind, Option.bind_eq_some_iff,
        Option.pure_def, Option.some.injEq] at h
      obtain ⟨first, hfirst, others, hothers, rfl⟩ := h
      obtain ⟨hlength, hmem⟩ := ih hothers
      refine ⟨by simp [hlength], ?_⟩
      intro result hresult
      rcases List.mem_cons.mp hresult with rfl | hresult
      · exact ⟨value, List.mem_cons_self, hfirst⟩
      · obtain ⟨v, hv, hfv⟩ := hmem result hresult
        exact ⟨v, List.mem_cons_of_mem _ hv, hfv⟩

theorem foldl_pushHextet_lt {parts : List Nat} (h : ∀ hextet ∈ parts, hextet < 65536) {value n : Nat}
    (hvalue : value < 65536 ^ n) : parts.foldl pushHextet value < 65536 ^ (n + parts.length) := by
  induction parts generalizing value n with
  | nil => simpa using hvalue
  | cons hextet rest ih =>
      have hhead := h hextet List.mem_cons_self
      have hnext : pushHextet value hextet < 65536 ^ (n + 1) := by
        rw [pushHextet, pow_succ]
        omega
      have hrest := ih (fun v hv => h v (List.mem_cons_of_mem _ hv)) hnext
      rw [List.foldl_cons, List.length_cons]
      rwa [Nat.add_assoc, Nat.add_comm 1] at hrest

theorem hextetLayout_length {parts hi lo : List (List Char)} {skipped : Nat}
    (h : hextetLayout parts = some (hi, skipped, lo)) : hi.length + skipped + lo.length = 8 := by
  rw [hextetLayout] at h
  split at h
  next =>
    split at h
    next hcond =>
      cases h
      simp only [Bool.and_eq_true, decide_eq_true_eq] at hcond
      simp [hcond.1.1]
    next => cases h
  next skip _ =>
    dsimp only at h
    generalize (if (parts.take skip).head? = some [] then [] else parts.take skip) = front at h
    generalize (if (parts.drop (skip + 1)).getLast? = some [] then []
      else parts.drop (skip + 1)) = back at h
    split at h
    next => cases h
    next =>
      split at h
      next hlt =>
        cases h
        omega
      next => cases h
  next => cases h

theorem parseIPv6_lt {text : List Char} {address : Nat} (h : parseIPv6 text = some address) :
    address < 2 ^ 128 := by
  simp only [parseIPv6, Option.bind_eq_bind] at h
  split at h
  next => cases h
  obtain ⟨parts, -, h⟩ := Option.bind_eq_some_iff.mp h
  split at h
  next => cases h
  obtain ⟨⟨hi, skipped, lo⟩, hlayout, h⟩ := Option.bind_eq_some_iff.mp h
  obtain ⟨his, hhis, h⟩ := Option.bind_eq_some_iff.mp h
  obtain ⟨los, hlos, h⟩ := Option.bind_eq_some_iff.mp h
  cases h
  have hlength := hextetLayout_length hlayout
  obtain ⟨hhiLength, hhiMem⟩ := mapM_length hhis
  obtain ⟨hloLength, hloMem⟩ := mapM_length hlos
  have hhi : his.foldl pushHextet 0 < 65536 ^ (0 + his.length) := by
    apply foldl_pushHextet_lt
    · intro hextet hmem
      obtain ⟨part, -, hpart⟩ := hhiMem hextet hmem
      exact parseHextet_lt hpart
    · simp
  have hshifted : his.foldl pushHextet 0 * 65536 ^ skipped < 65536 ^ (his.length + skipped) := by
    rw [pow_add]
    exact Nat.mul_lt_mul_of_pos_right (by simpa using hhi) (by positivity)
  have hall : los.foldl pushHextet (his.foldl pushHextet 0 * 65536 ^ skipped) <
      65536 ^ (his.length + skipped + los.length) := by
    apply foldl_pushHextet_lt _ hshifted
    intro hextet hmem
    obtain ⟨part, -, hpart⟩ := hloMem hextet hmem
    exact parseHextet_lt hpart
  rw [hhiLength, hloLength, hlength] at hall
  exact hall

theorem formatHextets_plain {parts : List Nat} {c : Char} (h : c ∈ formatHextets parts) :
    c ≠ '%' ∧ c ≠ '/' := by
  have hjoin : ∀ hextets : List Nat, c ∈ join ':' (hextets.map hexadecimal) → c ≠ '%' ∧ c ≠ '/' := by
    intro hextets hc
    rcases mem_join hc with rfl | ⟨part, hpart, hc⟩
    · decide
    · obtain ⟨hextet, -, rfl⟩ := List.mem_map.mp hpart
      obtain ⟨d, hd, rfl⟩ := mem_hexadecimal hc
      exact (digitChar_hex hd).2.2.2.2
  simp only [formatHextets] at h
  split at h
  next =>
    rcases List.mem_append.mp h with h | h
    · rcases List.mem_append.mp h with h | h
      · exact hjoin _ h
      · simp only [List.mem_cons, List.not_mem_nil, or_false, or_self] at h
        rw [h]
        decide
    · exact hjoin _ h
  next => exact hjoin _ h

theorem formatIPv6_plain {address : Nat} {c : Char} (h : c ∈ formatIPv6 address) :
    c ≠ '%' ∧ c ≠ '/' := by
  rw [formatIPv6] at h
  split at h
  next =>
    rcases List.mem_append.mp h with h | h
    · rcases List.mem_append.mp h with h | h
      · exact formatHextets_plain h
      · rw [List.mem_singleton.mp h]
        decide
    · exact (formatIPv4_plain h).2
  next => exact formatHextets_plain h

theorem cleanIPv6_idempotent {text canonical : String} (h : cleanIPv6 text = some canonical) :
    cleanIPv6 canonical = some canonical := by
  simp only [cleanIPv6, Option.bind_eq_bind] at h
  split at h
  next => cases h
  obtain ⟨⟨address, scope⟩, -, h⟩ := Option.bind_eq_some_iff.mp h
  obtain ⟨value, hvalue, h⟩ := Option.bind_eq_some_iff.mp h
  cases h
  have hslash : '/' ∉ formatIPv6 value := fun hmem => (formatIPv6_plain hmem).2 rfl
  have hscope : splitScopeId (formatIPv6 value) = some (formatIPv6 value, none) := by
    have hpercent : '%' ∉ formatIPv6 value := fun hmem => (formatIPv6_plain hmem).1 rfl
    rw [splitScopeId, List.splitOn_eq_singleton hpercent]
  have hparse := parseIPv6_formatIPv6 (parseIPv6_lt hvalue)
  simp [cleanIPv6, hslash, hscope, hparse]

/-! ### Texts that are written as they were read -/

theorem exists_digitChar {c : Char} (h : isDigit c = true) : ∃ d < 10, c = Nat.digitChar d := by
  simp only [isDigit, Bool.and_eq_true, decide_eq_true_eq] at h
  have hlow : 48 ≤ c.toNat := h.1
  have hhigh : c.toNat ≤ 57 := h.2
  have hchars : ∀ d < 10, Char.ofNat (48 + d) = Nat.digitChar d := by decide
  refine ⟨c.toNat - 48, by omega, ?_⟩
  rw [← hchars _ (by omega), Nat.add_sub_cancel' hlow, Char.ofNat_toNat]

/-- A number of at most three digits is written as it was read, unless it has a leading zero. -/
theorem decimal_decimalValue : ∀ a < 10, decimal (decimalValue [Nat.digitChar a]) = [Nat.digitChar a] ∧
    ∀ b < 10, a ≠ 0 →
      decimal (decimalValue [Nat.digitChar a, Nat.digitChar b]) = [Nat.digitChar a, Nat.digitChar b] ∧
      ∀ c < 10, decimal (decimalValue [Nat.digitChar a, Nat.digitChar b, Nat.digitChar c]) =
        [Nat.digitChar a, Nat.digitChar b, Nat.digitChar c] := by
  decide +kernel

theorem decimal_of_parseOctet {octet : List Char} {value : Nat} (h : parseOctet octet = some value) :
    decimal value = octet := by
  rw [parseOctet] at h
  split at h
  next => cases h
  next hvalid =>
    cases h
    simp only [Bool.or_eq_true, not_or, decide_eq_true_eq, Bool.not_eq_true', Bool.and_eq_true,
      not_and, Bool.not_eq_false] at hvalid
    obtain ⟨⟨⟨⟨hne, hdigits⟩, hlength⟩, hzero⟩, -⟩ := hvalid
    have hdigit : ∀ c ∈ octet, ∃ d < 10, c = Nat.digitChar d := fun c hc =>
      exists_digitChar (List.all_eq_true.mp hdigits c hc)
    match octet with
    | [] => exact absurd rfl hne
    | [a] =>
        obtain ⟨a, ha, rfl⟩ := hdigit a (by simp)
        exact (decimal_decimalValue a ha).1
    | [a, b] =>
        obtain ⟨a, ha, rfl⟩ := hdigit a (by simp)
        obtain ⟨b, hb, rfl⟩ := hdigit b (by simp)
        have hlead : a ≠ 0 := by
          rintro rfl
          exact hzero (by simp) rfl
        exact ((decimal_decimalValue a ha).2 b hb hlead).1
    | [a, b, c] =>
        obtain ⟨a, ha, rfl⟩ := hdigit a (by simp)
        obtain ⟨b, hb, rfl⟩ := hdigit b (by simp)
        obtain ⟨c, hc, rfl⟩ := hdigit c (by simp)
        have hlead : a ≠ 0 := by
          rintro rfl
          exact hzero (by simp) rfl
        exact ((decimal_decimalValue a ha).2 b hb hlead).2 c hc
    | _ :: _ :: _ :: _ :: _ => simp at hlength

theorem parseOctet_lt {octet : List Char} {value : Nat} (h : parseOctet octet = some value) :
    value < 256 := by
  rw [parseOctet] at h
  split at h
  next => cases h
  next hvalid =>
    cases h
    simp only [Bool.or_eq_true, not_or, decide_eq_true_eq] at hvalid
    omega

theorem map_of_mapM_eq_some {α β : Type} {f : α → Option β} {g : β → α} {values : List α}
    {results : List β} (h : ∀ value result, f value = some result → g result = value)
    (hmap : values.mapM f = some results) : results.map g = values := by
  induction values generalizing results with
  | nil =>
      cases hmap
      rfl
  | cons value rest ih =>
      rw [List.mapM_cons] at hmap
      obtain ⟨result, hresult, hmap⟩ := Option.bind_eq_some_iff.mp hmap
      obtain ⟨later, hlater, heq⟩ := Option.bind_eq_some_iff.mp hmap
      cases heq
      rw [List.map_cons, h value result hresult, ih hlater]

theorem formatIPv4_of_parseIPv4 {text : List Char} {address : Nat}
    (h : parseIPv4 text = some address) : formatIPv4 address = text := by
  rw [parseIPv4] at h
  split at h
  next a b c d hoctets =>
    cases h
    have hlt : ∀ octet ∈ [a, b, c, d], octet < 256 := by
      intro octet hoctet
      obtain ⟨part, -, hpart⟩ := (mapM_length hoctets).2 octet hoctet
      exact parseOctet_lt hpart
    have hmap := map_of_mapM_eq_some (fun _ _ => decimal_of_parseOctet) hoctets
    have hsame : octets (((a * 256 + b) * 256 + c) * 256 + d) = [a, b, c, d] := by
      simp only [List.mem_cons, List.not_mem_nil, or_false, forall_eq_or_imp, forall_eq] at hlt
      simp only [octets, List.cons.injEq, and_true]
      omega
    rw [formatIPv4_eq, hsame, hmap, join]
    exact List.intercalate_splitOn '.'
  next => cases h

theorem colon_not_mem_of_parseIPv4 {text : List Char} {address : Nat}
    (h : parseIPv4 text = some address) : ':' ∉ text := by
  intro hmem
  rw [← formatIPv4_of_parseIPv4 h] at hmem
  exact (formatIPv4_plain hmem).1 rfl

theorem colon_mem_of_parseIPv6 {text : List Char} {address : Nat}
    (h : parseIPv6 text = some address) : ':' ∈ text := by
  by_contra hcolon
  simp [parseIPv6, List.splitOn_eq_singleton hcolon] at h

/-- The canonical form of a text without a scope: that of its IPv6 address, or the IPv4 text itself. -/
theorem ipAddress_of_no_scope {text canonical : String} (hscope : '%' ∉ text.toList)
    (h : ipAddress text = some canonical) :
    if ':' ∈ text.toList then cleanIPv6 text = some canonical else canonical = text := by
  rw [ipAddress] at h
  split at h
  next address haddress =>
    cases h
    rw [if_neg (colon_not_mem_of_parseIPv4 haddress), formatIPv4_of_parseIPv4 haddress,
      String.ofList_toList]
  next =>
    simp only [Option.bind_eq_bind] at h
    split at h
    next => cases h
    next hslash =>
      have hsplit : splitScopeId text.toList = some (text.toList, none) := by
        rw [splitScopeId, List.splitOn_eq_singleton hscope]
      rw [hsplit, Option.bind_some] at h
      obtain ⟨address, haddress, h⟩ := Option.bind_eq_some_iff.mp h
      have hclean : cleanIPv6 text = some canonical := by
        simp only [cleanIPv6, Option.bind_eq_bind, if_neg hslash, hsplit, Option.bind_some,
          haddress]
        exact h
      rw [if_pos (colon_mem_of_parseIPv6 haddress)]
      exact hclean

/-- What stands before the scope is part of the text. -/
theorem front_subset_of_splitScopeId {text front : List Char} {scope : Option (List Char)}
    (h : splitScopeId text = some (front, scope)) : front ⊆ text := by
  have htext : ['%'].intercalate (text.splitOn '%') = text := List.intercalate_splitOn '%'
  rw [splitScopeId] at h
  split at h
  next address hsplit =>
    cases h
    rw [hsplit, List.intercalate_singleton] at htext
    rw [htext]
    exact List.Subset.refl text
  next address later hsplit =>
    split at h
    next => cases h
    next =>
      cases h
      rw [hsplit, List.intercalate_cons_cons] at htext
      rw [← htext, List.append_assoc]
      exact List.subset_append_left _ _
  next => cases h

/-- A text with a scope is the address, the percent sign and the scope, which has no other one. -/
theorem text_of_splitScopeId {text front scope : List Char}
    (h : splitScopeId text = some (front, some scope)) :
    scope ≠ [] ∧ text = front ++ '%' :: scope ∧ scope.splitOn '%' = [scope] := by
  have htext : ['%'].intercalate (text.splitOn '%') = text := List.intercalate_splitOn '%'
  rw [splitScopeId] at h
  split at h
  next => cases h
  next address later hsplit =>
    split at h
    next => cases h
    next hscope =>
      cases h
      rw [hsplit, List.intercalate_cons_cons, List.intercalate_singleton, List.append_assoc] at htext
      have htext : text = front ++ '%' :: scope := htext.symm
      refine ⟨hscope, htext, ?_⟩
      rw [htext, List.splitOn_append_cons_self] at hsplit
      have hfront := List.length_pos_iff.mpr (List.splitOn_ne_nil '%' front)
      have hlater := List.length_pos_iff.mpr (List.splitOn_ne_nil '%' scope)
      have hlength := congrArg List.length hsplit
      rw [List.length_append, List.length_cons, List.length_singleton] at hlength
      have hparts : front.splitOn '%' ++ scope.splitOn '%' = [front] ++ [scope] := hsplit
      exact (List.append_inj' hparts (by rw [List.length_singleton]; omega)).2
  next => cases h

theorem ipAddress_ipAddress {text canonical : String} (h : ipAddress text = some canonical) :
    ipAddress canonical = some canonical := by
  have hread := h
  rw [ipAddress] at h
  split at h
  next address haddress =>
    have hsame : canonical = text := by
      rw [← Option.some.inj h, formatIPv4_of_parseIPv4 haddress, String.ofList_toList]
    rw [hsame] at hread ⊢
    exact hread
  next =>
    simp only [Option.bind_eq_bind] at h
    split at h
    next => cases h
    next hslash =>
      obtain ⟨⟨front, scope⟩, hsplit, h⟩ := Option.bind_eq_some_iff.mp h
      obtain ⟨address, haddress, h⟩ := Option.bind_eq_some_iff.mp h
      have hparse := parseIPv6_formatIPv6 (parseIPv6_lt haddress)
      have hcolon := colon_mem_of_parseIPv6 hparse
      have hpercent : '%' ∉ formatIPv6 address := fun hmem => (formatIPv6_plain hmem).1 rfl
      have hplain : '/' ∉ formatIPv6 address := fun hmem => (formatIPv6_plain hmem).2 rfl
      cases scope with
      | none =>
          cases h
          have hnot : parseIPv4 (formatIPv6 address) = none :=
            Option.eq_none_iff_forall_ne_some.mpr fun _ hother =>
              colon_not_mem_of_parseIPv4 hother hcolon
          have hscope : splitScopeId (formatIPv6 address) = some (formatIPv6 address, none) := by
            rw [splitScopeId, List.splitOn_eq_singleton hpercent]
          simp [ipAddress, hnot, hplain, hscope, hparse]
      | some scope =>
          cases h
          obtain ⟨hne, htext, hsingle⟩ := text_of_splitScopeId hsplit
          have hnot : parseIPv4 (formatIPv6 address ++ '%' :: scope) = none :=
            Option.eq_none_iff_forall_ne_some.mpr fun _ hother =>
              colon_not_mem_of_parseIPv4 hother (List.mem_append_left _ hcolon)
          have hscope : splitScopeId (formatIPv6 address ++ '%' :: scope) =
              some (formatIPv6 address, some scope) := by
            rw [splitScopeId, List.splitOn_append_cons_self,
              List.splitOn_eq_singleton hpercent, hsingle]
            exact if_neg hne
          have hslashes : '/' ∉ formatIPv6 address ++ '%' :: scope := by
            rw [htext, List.mem_append, List.mem_cons] at hslash
            rw [List.mem_append, List.mem_cons]
            rintro (hmem | hmem | hmem)
            · exact hplain hmem
            · exact absurd hmem (by decide)
            · exact hslash (.inr (.inr hmem))
          simp [ipAddress, hnot, hslashes, hscope, hparse]

theorem cleanIPv6_of_scope {text canonical : String} (hscope : '%' ∈ text.toList)
    (h : ipAddress text = some canonical) :
    ':' ∈ text.toList ∧ ∃ clean, cleanIPv6 text = some clean ∧ '%' ∉ clean.toList := by
  rw [ipAddress] at h
  split at h
  next address haddress =>
    rw [← formatIPv4_of_parseIPv4 haddress] at hscope
    exact absurd rfl (formatIPv4_plain hscope).2.1
  next =>
    simp only [Option.bind_eq_bind] at h
    split at h
    next => cases h
    next hslash =>
      obtain ⟨⟨front, scope⟩, hsplit, h⟩ := Option.bind_eq_some_iff.mp h
      obtain ⟨address, haddress, -⟩ := Option.bind_eq_some_iff.mp h
      constructor
      · refine front_subset_of_splitScopeId hsplit (colon_mem_of_parseIPv6 haddress)
      · refine ⟨String.ofList (formatIPv6 address), ?_, fun hmem => ?_⟩
        · simp only [cleanIPv6, Option.bind_eq_bind, if_neg hslash, hsplit, Option.bind_some,
            haddress]
        · rw [String.toList_ofList] at hmem
          exact (formatIPv6_plain hmem).1 rfl

end Library.Address
