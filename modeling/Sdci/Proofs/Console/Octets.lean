import Mathlib.Algebra.Group.Nat.Even
import Sdci.Proofs.Console.Request
import Sdci.Proofs.Text.Numeral

/-!
# Octets as they are typed

Octets are typed as pairs of hexadecimal digits, and where the words among them end does not matter
(`readAllOctets_eq_ok_iff`). A plus sign in the first place of a pair is taken for a zero; without
one, words can be read exactly if they consist of digits and each has an even number of them. The
pairs can as well be cut out of the UTF-8 form of a word, since a character of more than one octet
spoils the pair that it is in (`pieces?_eq`).
-/

namespace Sdci.Console

open Text

variable {word text rest : List Char} {words : List Word} {octets : List UInt8}

/-! ### Pairs of digits -/

/-- The text spells the octets: two hexadecimal digits for each, the upper half first. -/
def SpellsOctets (text : List Char) (octets : List UInt8) : Prop :=
  List.Forall₂ (Numeral.IsDigit 16) text
    (octets.flatMap fun octet => [octet.toNat / 16, octet.toNat % 16])

/-- The text consists of hexadecimal digits, an even number of them. -/
def IsHexadecimal (text : List Char) : Prop :=
  Even text.length ∧ ∀ c ∈ text, c ∈ Numeral.hexDigits

instance : DecidablePred IsHexadecimal := fun text =>
  decidable_of_iff (Even text.length ∧ text.all (Numeral.hexDigits.contains ·))
    (by simp [IsHexadecimal])

/-- The text with a zero for each plus sign in the first place of a pair. -/
def plusAsZero : List Char → List Char
  | upper :: lower :: rest => (if upper = '+' then '0' else upper) :: lower :: plusAsZero rest
  | rest => rest

/-- Two characters are a numeral of two digits, or of one behind a plus sign. -/
theorem spells_pair_iff {upper lower : Char} {value : Nat} :
    Numeral.Spells 16 [upper, lower] value ↔
      (upper = '+' ∧ Numeral.IsDigit 16 lower value) ∨
        ∃ high low, Numeral.IsDigit 16 upper high ∧ Numeral.IsDigit 16 lower low ∧
          value = 16 * high + low := by
  have hpair (high low : Nat) : Nat.ofDigits 16 [high, low].reverse = 16 * high + low := by
    simp [Nat.ofDigits_cons, Nat.add_comm]
  constructor
  · rintro ⟨digits, values, rfl | htext, -, hvalues, rfl⟩
    · simp only [List.forall₂_cons_left_iff, List.forall₂_nil_left_iff] at hvalues
      obtain ⟨high, _, hhigh, ⟨low, _, hlow, rfl, rfl⟩, rfl⟩ := hvalues
      exact .inr ⟨high, low, hhigh, hlow, hpair high low⟩
    · obtain ⟨rfl, rfl⟩ := List.cons.inj htext
      simp only [List.forall₂_cons_left_iff, List.forall₂_nil_left_iff] at hvalues
      obtain ⟨low, _, hlow, rfl, rfl⟩ := hvalues
      exact .inl ⟨rfl, by simpa using hlow⟩
  · rintro (⟨rfl, hlow⟩ | ⟨high, low, hhigh, hlow, rfl⟩)
    · exact ⟨[lower], [value], .inr rfl, by simp, .cons hlow .nil, by simp⟩
    · exact ⟨[upper, lower], [high, low], .inl rfl, by simp, .cons hhigh (.cons hlow .nil),
        (hpair high low).symm⟩

theorem isDigit_zero_iff {digit : Nat} : Numeral.IsDigit 16 '0' digit ↔ digit = 0 := by
  rw [← Numeral.digit?_eq_some_iff (Nat.le_refl 16)]
  exact Option.some_inj.trans eq_comm

/-- Two characters are read as an octet if they are digits, but for a plus sign in first place. -/
theorem read_pair_eq_ok_iff {upper lower : Char} {value : Nat} :
    Numeral.read 16 Numeral.maxOctet [upper, lower] = .ok value ↔
      value < 256 ∧ Numeral.IsDigit 16 (if upper = '+' then '0' else upper) (value / 16) ∧
        Numeral.IsDigit 16 lower (value % 16) := by
  rw [Numeral.read_eq_ok_iff (by decide) (Nat.le_refl 16), spells_pair_iff]
  by_cases hplus : upper = '+'
  · rw [if_pos hplus, isDigit_zero_iff]
    constructor
    · rintro ⟨⟨-, hlower⟩ | ⟨high, low, hupper, -⟩, hle⟩
      · have hlt := hlower.1
        rw [Nat.div_eq_of_lt hlt, Nat.mod_eq_of_lt hlt]
        exact ⟨Nat.lt_succ_of_le hle, rfl, hlower⟩
      · exact absurd hplus (hupper.ne_plus (Nat.le_refl 16))
    · rintro ⟨hlt, hzero, hlower⟩
      rw [show value % 16 = value by omega] at hlower
      exact ⟨.inl ⟨hplus, hlower⟩, Nat.le_of_lt_succ hlt⟩
  · rw [if_neg hplus]
    constructor
    · rintro ⟨⟨hnot, -⟩ | ⟨high, low, hupper, hlower, rfl⟩, hle⟩
      · exact absurd hnot hplus
      · have hlow := hlower.1
        rw [show (16 * high + low) / 16 = high by omega,
          show (16 * high + low) % 16 = low by omega]
        exact ⟨Nat.lt_succ_of_le hle, hupper, hlower⟩
    · rintro ⟨hlt, hupper, hlower⟩
      exact ⟨.inr ⟨_, _, hupper, hlower, (Nat.div_add_mod value 16).symm⟩, Nat.le_of_lt_succ hlt⟩

/-- The characters of a pair that can be read take one octet each. -/
theorem utf8Size_of_read_pair {upper lower : Char} {value : Nat}
    (h : Numeral.read 16 Numeral.maxOctet [upper, lower] = .ok value) :
    upper.utf8Size = 1 ∧ lower.utf8Size = 1 := by
  obtain ⟨-, hupper, hlower⟩ := read_pair_eq_ok_iff.mp h
  refine ⟨?_, hlower.utf8Size (Nat.le_refl 16)⟩
  split at hupper
  · next hplus =>
    rw [hplus]
    rfl
  · exact hupper.utf8Size (Nat.le_refl 16)

theorem spellsOctets_nil_iff : SpellsOctets [] octets ↔ octets = [] := by
  cases octets <;> simp [SpellsOctets]

theorem not_spellsOctets_singleton (c : Char) : ¬SpellsOctets [c] octets := by
  cases octets <;> simp [SpellsOctets]

theorem spellsOctets_pair_iff {upper lower : Char} :
    SpellsOctets (upper :: lower :: text) octets ↔
      ∃ octet others, octets = octet :: others ∧ Numeral.IsDigit 16 upper (octet.toNat / 16) ∧
        Numeral.IsDigit 16 lower (octet.toNat % 16) ∧ SpellsOctets text others := by
  constructor
  · intro h
    obtain _ | ⟨octet, others⟩ := octets
    · cases h
    · obtain ⟨hupper, hrest⟩ := List.forall₂_cons.mp h
      obtain ⟨hlower, hothers⟩ := List.forall₂_cons.mp hrest
      exact ⟨octet, others, rfl, hupper, hlower, hothers⟩
  · rintro ⟨octet, others, rfl, hupper, hlower, hothers⟩
    exact .cons hupper (.cons hlower hothers)

/-- A text spells octets exactly if it is hexadecimal. -/
theorem exists_spellsOctets_iff : (text : List Char) →
    ((∃ octets, SpellsOctets text octets) ↔ IsHexadecimal text)
  | [] => by simp [spellsOctets_nil_iff, IsHexadecimal]
  | [c] => by simp [not_spellsOctets_singleton, IsHexadecimal]
  | upper :: lower :: rest => by
    have heven : Even (upper :: lower :: rest).length ↔ Even rest.length := by
      simp [Nat.even_add_one]
    simp only [IsHexadecimal, heven, List.forall_mem_cons, ← Numeral.exists_isDigit_iff]
    constructor
    · rintro ⟨octets, h⟩
      obtain ⟨octet, others, rfl, hupper, hlower, hothers⟩ := spellsOctets_pair_iff.mp h
      obtain ⟨hrest, hall⟩ := (exists_spellsOctets_iff rest).mp ⟨others, hothers⟩
      exact ⟨hrest, ⟨_, hupper⟩, ⟨_, hlower⟩, fun c hmem =>
        Numeral.exists_isDigit_iff.mpr (hall c hmem)⟩
    · rintro ⟨hrest, ⟨high, hupper⟩, ⟨low, hlower⟩, hall⟩
      obtain ⟨others, hothers⟩ := (exists_spellsOctets_iff rest).mpr
        ⟨hrest, fun c hmem => Numeral.exists_isDigit_iff.mp (hall c hmem)⟩
      have hhigh := hupper.1
      have hlow := hlower.1
      have hnat : (16 * high + low).toUInt8.toNat = 16 * high + low :=
        Nat.mod_eq_of_lt (by omega)
      refine ⟨(16 * high + low).toUInt8 :: others,
        spellsOctets_pair_iff.mpr ⟨_, others, rfl, ?_, ?_, hothers⟩⟩
      · rwa [hnat, show (16 * high + low) / 16 = high by omega]
      · rwa [hnat, show (16 * high + low) % 16 = low by omega]

/-- The pairs of a text are read exactly if it spells octets, but for plus signs in first places. -/
theorem pairs?_eq_some_iff : pairs? text = some octets ↔ SpellsOctets (plusAsZero text) octets := by
  fun_induction pairs? text generalizing octets with
  | case1 => exact eq_comm.trans (Option.some_inj.trans spellsOctets_nil_iff.symm)
  | case2 upper lower rest value hvalue ih =>
    obtain ⟨hlt, hupper, hlower⟩ := read_pair_eq_ok_iff.mp hvalue
    rw [plusAsZero, spellsOctets_pair_iff, Option.map_eq_some_iff]
    have hnat : value.toUInt8.toNat = value := Nat.mod_eq_of_lt hlt
    constructor
    · rintro ⟨others, hothers, rfl⟩
      exact ⟨_, others, rfl, by rwa [hnat], by rwa [hnat], ih.mp hothers⟩
    · rintro ⟨octet, others, rfl, hupper', hlower', hothers⟩
      have hoctet := read_pair_eq_ok_iff.mpr ⟨octet.toNat_lt, hupper', hlower'⟩
      obtain rfl : value = octet.toNat := Except.ok.inj (hvalue.symm.trans hoctet)
      exact ⟨others, ih.mpr hothers, by simp⟩
  | case3 upper lower rest error herror =>
    rw [plusAsZero, spellsOctets_pair_iff]
    refine ⟨nofun, ?_⟩
    rintro ⟨octet, others, rfl, hupper, hlower, -⟩
    cases herror.symm.trans (read_pair_eq_ok_iff.mpr ⟨octet.toNat_lt, hupper, hlower⟩)
  | case4 c => exact ⟨nofun, fun h => absurd h (not_spellsOctets_singleton c)⟩

theorem pairs?_eq_none_iff : pairs? text = none ↔ ¬IsHexadecimal (plusAsZero text) := by
  rw [← exists_spellsOctets_iff, Option.eq_none_iff_forall_ne_some, not_exists]
  simp only [ne_eq, pairs?_eq_some_iff]

/-- Behind a text of even length, the pairs of another one follow. -/
theorem pairs?_append (h : Even text.length) (rest : List Char) :
    pairs? (text ++ rest) = (pairs? text).bind fun octets => (pairs? rest).map (octets ++ ·) := by
  fun_induction pairs? text with
  | case1 => simp
  | case2 upper lower text value hvalue ih =>
    have heven : Even text.length := by simpa [Nat.even_add_one] using h
    rw [List.cons_append, List.cons_append, pairs?, hvalue]
    simp only [ih heven]
    cases pairs? text <;> cases pairs? rest <;> rfl
  | case3 upper lower text error herror =>
    rw [List.cons_append, List.cons_append, pairs?, herror]
    rfl
  | case4 c => simp at h

theorem plusAsZero_of_notMem : (text : List Char) → '+' ∉ text → plusAsZero text = text
  | [], _ | [_], _ => rfl
  | upper :: lower :: rest, h => by
    obtain ⟨hupper, -, hrest⟩ : '+' ≠ upper ∧ '+' ≠ lower ∧ '+' ∉ rest := by simpa using h
    rw [plusAsZero, if_neg hupper.symm, plusAsZero_of_notMem rest hrest]

/-! ### Words -/

theorem octetCount_cons (c : Char) (rest : Word) :
    octetCount (c :: rest) = c.utf8Size + octetCount rest := by
  have hsum (word : Word) : octetCount word = (word.map Char.utf8Size).sum := by
    rw [List.sum_eq_foldl, List.foldl_map]
    rfl
  rw [hsum, hsum, List.map_cons, List.sum_cons]

theorem octetCount_eq_zero_iff : octetCount word = 0 ↔ word = [] := by
  obtain _ | ⟨c, rest⟩ := word
  · exact iff_of_true rfl rfl
  · have hpos := c.utf8Size_pos
    rw [octetCount_cons]
    exact iff_of_false (by omega) (List.cons_ne_nil c rest)

theorem octetCount_of_pairs? (h : pairs? word = some octets) :
    octetCount word = 2 * octets.length := by
  fun_induction pairs? word generalizing octets with
  | case1 => cases h; rfl
  | case2 upper lower rest value hvalue ih =>
    obtain ⟨others, hothers, rfl⟩ := Option.map_eq_some_iff.mp h
    obtain ⟨hupper, hlower⟩ := utf8Size_of_read_pair hvalue
    rw [octetCount_cons, octetCount_cons, hupper, hlower, ih hothers, List.length_cons]
    omega
  | case3 | case4 => cases h

/-- A word is read as octets if its pairs can be read. -/
theorem readOctets_eq_ok_iff : readOctets word = .ok octets ↔ pairs? word = some octets := by
  unfold readOctets
  constructor
  · intro h
    split at h
    · cases h
    split at h
    · next hpairs =>
      cases h
      exact hpairs
    · cases h
  · intro h
    rw [if_neg (by rw [octetCount_of_pairs? h]; omega), h]

/-- A word can be read exactly if it is hexadecimal, but for plus signs in first places. -/
theorem exists_readOctets_iff :
    (∃ octets, readOctets word = .ok octets) ↔ IsHexadecimal (plusAsZero word) := by
  simp only [readOctets_eq_ok_iff, pairs?_eq_some_iff, exists_spellsOctets_iff]

/-- The complaint about a word tells an odd number of octets from pairs that cannot be read. -/
theorem readOctets_eq_error_iff {complaint : Complaint} :
    readOctets word = .error complaint ↔ pairs? word = none ∧
      complaint = if Even (octetCount word) then .notHexadecimal word else .oddDigits word := by
  unfold readOctets
  by_cases heven : Even (octetCount word)
  · rw [if_pos heven, if_neg (by rw [Nat.even_iff] at heven; omega)]
    cases pairs? word <;> simp [eq_comm]
  · have hnone : pairs? word = none := Option.eq_none_iff_forall_ne_some.mpr fun octets hsome =>
      heven ⟨octets.length, by rw [octetCount_of_pairs? hsome]; omega⟩
    rw [if_neg heven, if_pos (by rw [Nat.even_iff] at heven; omega), hnone]
    simp [eq_comm]

theorem even_length_of_pairs? (h : pairs? text = some octets) : Even text.length := by
  fun_induction pairs? text generalizing octets with
  | case1 => exact Even.zero
  | case2 upper lower rest value hvalue ih =>
    obtain ⟨others, hothers, -⟩ := Option.map_eq_some_iff.mp h
    simpa [Nat.even_add_one] using ih hothers
  | case3 | case4 => cases h

/-- Words are read as the octets of one text, if each of them has an even length. -/
theorem readAllOctets_eq_ok_iff :
    readAllOctets words = .ok octets ↔
      (∀ word ∈ words, Even word.length) ∧ pairs? words.flatten = some octets := by
  induction words generalizing octets with
  | nil => simp [readAllOctets, pairs?]
  | cons word rest ih =>
    simp only [readAllOctets, bind_eq_ok, readOctets_eq_ok_iff, ih, List.forall_mem_cons,
      List.flatten_cons]
    constructor
    · rintro ⟨first, hfirst, others, ⟨heven, hothers⟩, hoctets⟩
      cases hoctets
      have hword := even_length_of_pairs? hfirst
      refine ⟨⟨hword, heven⟩, ?_⟩
      rw [pairs?_append hword, hfirst, hothers]
      rfl
    · rintro ⟨⟨hword, heven⟩, hoctets⟩
      rw [pairs?_append hword, Option.bind_eq_some_iff] at hoctets
      obtain ⟨first, hfirst, hoctets⟩ := hoctets
      obtain ⟨others, hothers, rfl⟩ := Option.map_eq_some_iff.mp hoctets
      exact ⟨first, hfirst, others, ⟨heven, hothers⟩, rfl⟩

/-- Words can be read exactly if each of them is hexadecimal, but for plus signs in first places. -/
theorem exists_readAllOctets_iff :
    (∃ octets, readAllOctets words = .ok octets) ↔
      ∀ word ∈ words, IsHexadecimal (plusAsZero word) := by
  simp only [← exists_readOctets_iff]
  induction words with
  | nil => simp [readAllOctets]
  | cons word rest ih =>
    rw [List.forall_mem_cons, ← ih]
    simp only [readAllOctets, bind_eq_ok]
    constructor
    · rintro ⟨_, first, hfirst, others, hothers, -⟩
      exact ⟨⟨first, hfirst⟩, others, hothers⟩
    · rintro ⟨⟨first, hfirst⟩, others, hothers⟩
      exact ⟨_, first, hfirst, others, hothers, rfl⟩

/-- The first word that cannot be read is the one complained about. -/
theorem readAllOctets_eq_error_iff {complaint : Complaint} :
    readAllOctets words = .error complaint ↔
      ∃ before word after, words = before ++ word :: after ∧
        (∀ other ∈ before, ∃ octets, readOctets other = .ok octets) ∧
        readOctets word = .error complaint := by
  induction words with
  | nil => simp [readAllOctets]
  | cons word rest ih =>
    rw [readAllOctets]
    cases hword : readOctets word with
    | error other =>
      constructor
      · intro h
        cases h
        exact ⟨[], word, rest, rfl, by simp, hword⟩
      · rintro ⟨_ | ⟨first, before⟩, found, after, heq, hbefore, hfound⟩
        · cases heq
          exact hword.symm.trans hfound
        · cases heq
          obtain ⟨octets, hoctets⟩ := hbefore word (List.mem_cons_self ..)
          cases hword.symm.trans hoctets
    | ok octets =>
      have hrest : (readAllOctets rest >>= fun others => pure (octets ++ others)) =
          Except.error complaint ↔ readAllOctets rest = .error complaint := by
        cases readAllOctets rest <;> simp [bind, Except.bind, pure, Except.pure]
      refine Iff.trans hrest (ih.trans ?_)
      constructor
      · rintro ⟨before, found, after, rfl, hbefore, hfound⟩
        exact ⟨word :: before, found, after, rfl,
          List.forall_mem_cons.mpr ⟨⟨octets, hword⟩, hbefore⟩, hfound⟩
      · rintro ⟨_ | ⟨first, before⟩, found, after, heq, hbefore, hfound⟩
        · cases heq
          cases hword.symm.trans hfound
        · cases heq
          exact ⟨before, found, after, rfl, (List.forall_mem_cons.mp hbefore).2, hfound⟩

/-! ### Places in UTF-8 -/

/-- The text behind the first octets of its UTF-8 form, if a character ends there. -/
def dropOctets? : Nat → List Char → Option (List Char)
  | 0, text => some text
  | _ + 1, [] => none
  | count + 1, c :: rest =>
    if c.utf8Size ≤ count + 1 then dropOctets? (count + 1 - c.utf8Size) rest else none

/-- The text in the first octets of its UTF-8 form, if a character ends there. -/
def takeOctets? : Nat → List Char → Option (List Char)
  | 0, _ => some []
  | _ + 1, [] => none
  | count + 1, c :: rest =>
    if c.utf8Size ≤ count + 1 then (takeOctets? (count + 1 - c.utf8Size) rest).map (c :: ·)
    else none

/-- The octet that is typed at a place of the UTF-8 form of a word, if whole characters stand in the
two octets there. -/
def octetAt? (word : Word) (place : Nat) : Option UInt8 := do
  let pair ← takeOctets? 2 (← dropOctets? place word)
  (Numeral.read 16 Numeral.maxOctet pair).toOption.map Nat.toUInt8

theorem octetAt?_zero (word : Word) : octetAt? word 0 =
    (takeOctets? 2 word).bind fun pair =>
      (Numeral.read 16 Numeral.maxOctet pair).toOption.map Nat.toUInt8 := by
  simp [octetAt?, dropOctets?]

/-- The octets that are typed at every other place of the UTF-8 form of a word. -/
def pieces? (word : Word) : Option (List UInt8) :=
  (List.range (octetCount word / 2)).mapM fun number => octetAt? word (2 * number)

/-- What is cut off a text is a beginning of it that takes so many octets. -/
theorem eq_append_of_takeOctets? {count : Nat} {front : List Char}
    (h : takeOctets? count text = some front) :
    (∃ rest, text = front ++ rest) ∧ octetCount front = count := by
  fun_induction takeOctets? count text generalizing front with
  | case1 text =>
    cases h
    exact ⟨⟨text, rfl⟩, rfl⟩
  | case2 | case4 => cases h
  | case3 count c rest hsize ih =>
    obtain ⟨front, hfront, rfl⟩ := Option.map_eq_some_iff.mp h
    obtain ⟨⟨behind, rfl⟩, hcount⟩ := ih hfront
    refine ⟨⟨behind, rfl⟩, ?_⟩
    rw [octetCount_cons, hcount]
    omega

/-- One character alone is no pair, even if it takes two octets. -/
theorem read_singleton_ne_ok {c : Char} (h : c.utf8Size ≠ 1) (value : Nat) :
    Numeral.read 16 Numeral.maxOctet [c] ≠ .ok value := by
  intro hread
  obtain ⟨digits, hdigits, hne, hread⟩ :=
    (Numeral.read_eq_ok_iff_readDigits (Nat.le_refl 16)).mp hread
  obtain rfl | hplus := hdigits
  · rw [Numeral.readDigits_eq_ok_iff (by decide) (Nat.le_refl 16) (Nat.zero_le _)] at hread
    obtain ⟨_, hvalues, -⟩ := hread
    obtain ⟨digit, _, hdigit, -⟩ := List.forall₂_cons_left_iff.mp hvalues
    exact h (hdigit.utf8Size (Nat.le_refl 16))
  · exact hne (List.cons.inj hplus).2.symm

/-- An octet is typed at the beginning of a text exactly if its first two characters are a pair. -/
theorem octetAt?_zero_eq_some_iff {octet : UInt8} :
    octetAt? text 0 = some octet ↔
      ∃ upper lower rest value, text = upper :: lower :: rest ∧
        Numeral.read 16 Numeral.maxOctet [upper, lower] = .ok value ∧ octet = value.toUInt8 := by
  constructor
  · intro h
    rw [octetAt?_zero] at h
    obtain ⟨pair, hpair, hoctet⟩ := Option.bind_eq_some_iff.mp h
    obtain ⟨value, hvalue, rfl⟩ := Option.map_eq_some_iff.mp hoctet
    have hread : Numeral.read 16 Numeral.maxOctet pair = .ok value := by
      cases hresult : Numeral.read 16 Numeral.maxOctet pair with
      | ok other =>
        rw [hresult] at hvalue
        cases hvalue
        rfl
      | error error =>
        rw [hresult] at hvalue
        cases hvalue
    obtain ⟨⟨rest, rfl⟩, hsize⟩ := eq_append_of_takeOctets? hpair
    -- Two octets are one character of two, which is no pair, or two characters of one.
    obtain _ | ⟨upper, _ | ⟨lower, behind⟩⟩ := pair
    · cases hsize
    · rw [octetCount_cons] at hsize
      have htwo : upper.utf8Size = 2 := hsize
      exact absurd hread (read_singleton_ne_ok (by omega) value)
    · have hupper := upper.utf8Size_pos
      have hlower := lower.utf8Size_pos
      rw [octetCount_cons, octetCount_cons] at hsize
      obtain rfl : behind = [] := octetCount_eq_zero_iff.mp (by omega)
      exact ⟨upper, lower, rest, value, rfl, hread, rfl⟩
  · rintro ⟨upper, lower, rest, value, rfl, hread, rfl⟩
    obtain ⟨hupper, hlower⟩ := utf8Size_of_read_pair hread
    simp [octetAt?, dropOctets?, takeOctets?, hupper, hlower, hread, Except.toOption]

theorem octetAt?_pair {upper lower : Char} (hupper : upper.utf8Size = 1)
    (hlower : lower.utf8Size = 1) (place : Nat) :
    octetAt? (upper :: lower :: rest) (place + 2) = octetAt? rest place := by
  simp [octetAt?, dropOctets?, hupper, hlower]

/-- Nothing is typed in a word whose beginning is no pair. -/
theorem pieces?_eq_none (hpos : 2 ≤ octetCount word) (h : ∀ octet, octetAt? word 0 ≠ some octet) :
    pieces? word = none := by
  obtain ⟨count, hcount⟩ : ∃ count, octetCount word / 2 = count + 1 :=
    ⟨octetCount word / 2 - 1, by omega⟩
  rw [pieces?, hcount, List.range_succ_eq_map, List.mapM_cons,
    Option.eq_none_iff_forall_ne_some.mpr h]
  rfl

/-- Cutting the pairs out of the UTF-8 form of a word is the same as pairing its characters. -/
theorem pieces?_eq (h : Even (octetCount word)) : pieces? word = pairs? word := by
  fun_induction pairs? word with
  | case1 => rfl
  | case2 upper lower rest value hvalue ih =>
    obtain ⟨hupper, hlower⟩ := utf8Size_of_read_pair hvalue
    have hcount : octetCount (upper :: lower :: rest) = octetCount rest + 2 := by
      rw [octetCount_cons, octetCount_cons, hupper, hlower]
      omega
    have heven : Even (octetCount rest) := by simpa [hcount, Nat.even_add] using h
    have hfirst : octetAt? (upper :: lower :: rest) 0 = some value.toUInt8 :=
      octetAt?_zero_eq_some_iff.mpr ⟨upper, lower, rest, value, rfl, hvalue, rfl⟩
    have hlater : (fun number => octetAt? (upper :: lower :: rest) (2 * number)) ∘ Nat.succ =
        fun number => octetAt? rest (2 * number) := 
      funext fun number => octetAt?_pair hupper hlower (2 * number)
    rw [← ih heven, pieces?, hcount, Nat.add_div_right _ Nat.two_pos, List.range_succ_eq_map,
      List.mapM_cons]
    simp only [Nat.mul_zero, hfirst, List.mapM_map, hlater]
    change (pieces? rest).bind _ = _
    cases pieces? rest <;> rfl
  | case3 upper lower rest error herror =>
    -- There are two octets at least, and the first piece fails already.
    have hupper := upper.utf8Size_pos
    have hlower := lower.utf8Size_pos
    refine pieces?_eq_none (by rw [octetCount_cons, octetCount_cons]; omega) fun octet hoctet => ?_
    obtain ⟨_, _, _, value, heq, hvalue, -⟩ := octetAt?_zero_eq_some_iff.mp hoctet
    cases heq
    cases herror.symm.trans hvalue
  | case4 c =>
    -- One character of an even size is a piece to cut, but no pair.
    have hpos : octetCount [c] ≠ 0 := octetCount_eq_zero_iff.not.mpr (List.cons_ne_nil c [])
    rw [Nat.even_iff] at h
    refine pieces?_eq_none (by omega) fun octet hoctet => ?_
    obtain ⟨_, _, _, _, heq, -⟩ := octetAt?_zero_eq_some_iff.mp hoctet
    cases heq

/-- A word of an even number of octets is read as the pieces of its UTF-8 form. -/
theorem readOctets_eq_pieces? (h : Even (octetCount word)) :
    readOctets word = (pieces? word).elim (.error (.notHexadecimal word)) .ok := by
  rw [readOctets, if_neg (by rw [Nat.even_iff] at h; omega), pieces?_eq h]
  cases pairs? word <;> rfl

/-! ### Reading back -/

/-- Words are read as octets exactly if they are hexadecimal, where a plus sign may stand for a zero
in the first place of a pair: then the octets are the ones that the digits spell, however they are
divided into words. The complaint is about the first word that cannot be read, and to look for the
pairs in its UTF-8 form makes no difference. -/
theorem octets_spelled (words : List Word) :
    ((∃ octets, readAllOctets words = .ok octets) ↔
        ∀ word ∈ words, IsHexadecimal (plusAsZero word)) ∧
      ('+' ∉ words.flatten →
        ((∃ octets, readAllOctets words = .ok octets) ↔ ∀ word ∈ words, IsHexadecimal word) ∧
        ∀ octets, readAllOctets words = .ok octets → SpellsOctets words.flatten octets) ∧
      (∀ octets, readAllOctets words = .ok octets →
        SpellsOctets (plusAsZero words.flatten) octets ∧
        ∀ others, others.flatten = words.flatten → (∀ other ∈ others, Even other.length) →
          readAllOctets others = .ok octets) ∧
      (∀ complaint, readAllOctets words = .error complaint ↔
        ∃ before word after, words = before ++ word :: after ∧
          (∀ other ∈ before, IsHexadecimal (plusAsZero other)) ∧
          ¬IsHexadecimal (plusAsZero word) ∧
          complaint = if Even (octetCount word) then .notHexadecimal word else .oddDigits word) ∧
      ∀ word ∈ words, Even (octetCount word) →
        readOctets word = (pieces? word).elim (.error (.notHexadecimal word)) .ok := by
  refine ⟨exists_readAllOctets_iff, fun hplus => ⟨?_, fun octets h => ?_⟩,
    fun octets h => ⟨?_, fun others hsame heven => ?_⟩, fun complaint => ?_,
    fun word _ => readOctets_eq_pieces?⟩
  · rw [exists_readAllOctets_iff]
    refine forall₂_congr fun word hword => ?_
    rw [plusAsZero_of_notMem word fun hmem => hplus (List.mem_flatten_of_mem hword hmem)]
  · have hspelled := pairs?_eq_some_iff.mp (readAllOctets_eq_ok_iff.mp h).2
    rwa [plusAsZero_of_notMem _ hplus] at hspelled
  · exact pairs?_eq_some_iff.mp (readAllOctets_eq_ok_iff.mp h).2
  · rw [readAllOctets_eq_ok_iff, hsame]
    exact ⟨heven, (readAllOctets_eq_ok_iff.mp h).2⟩
  · simp only [readAllOctets_eq_error_iff, exists_readOctets_iff, readOctets_eq_error_iff,
      pairs?_eq_none_iff]

/-- Digits of either case that are typed in other groups. -/
theorem octets_spelled_of_groups :
    readAllOctets ["12".toList, "aF34".toList] = .ok [0x12, 0xAF, 0x34] ∧
      SpellsOctets "12aF34".toList [0x12, 0xAF, 0x34] ∧
      readAllOctets ["12aF".toList, "34".toList] = .ok [0x12, 0xAF, 0x34] := by
  have hread : readAllOctets ["12".toList, "aF34".toList] = .ok [0x12, 0xAF, 0x34] := by decide
  obtain ⟨-, hplain, hgroups, -⟩ := octets_spelled ["12".toList, "aF34".toList]
  exact ⟨hread, (hplain (by decide)).2 _ hread,
    (hgroups _ hread).2 ["12aF".toList, "34".toList] (by decide) (by decide)⟩

/-- A plus sign is read as part of an octet, though it is no digit. -/
theorem readAllOctets_of_plus :
    readAllOctets ["+1".toList] = .ok [0x01] ∧ ¬IsHexadecimal "+1".toList := by
  decide

end Sdci.Console
