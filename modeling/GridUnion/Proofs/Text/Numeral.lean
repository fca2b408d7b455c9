import GridUnion.Text.Numeral
import Mathlib.Data.List.DropRight

/-!
# Numerals

What a text for a whole number looks like, told by a grammar: blanks, a sign that may be left out,
decimal digits with single underscores between them, and blanks.  `readInt` accepts the texts of
the grammar and no others, and reads a number back from the text that it is printed as.
-/

namespace GridUnion.Text

/-- A sign, which may be left out, and whether it makes a number negative. -/
inductive IsSign : List Char → Bool → Prop
  | none : IsSign [] false
  | plus : IsSign ['+'] false
  | minus : IsSign ['-'] true

/-- Decimal digits with single underscores between them, and the values of the digits. -/
inductive IsDigits : List Char → List Nat → Prop
  | one {c : Char} {d : Nat} : decimalValue? c = some d → IsDigits [c] [d]
  | next {c : Char} {d : Nat} {cs : List Char} {ds : List Nat} :
      decimalValue? c = some d → IsDigits cs ds → IsDigits (c :: cs) (d :: ds)
  | apart {c : Char} {d : Nat} {cs : List Char} {ds : List Nat} :
      decimalValue? c = some d → IsDigits cs ds → IsDigits (c :: '_' :: cs) (d :: ds)

/-- The number with a sign and digits. -/
def signed (negative : Bool) (ds : List Nat) : Int :=
  if negative then -(ofDigits ds : Int) else ofDigits ds

/-- A text for a whole number, with no more digits than are converted at once. -/
inductive IsNumeral : List Char → Int → Prop
  | mk {before sign digits after : List Char} {negative : Bool} {ds : List Nat} :
      (∀ c ∈ before, isBlank c) → IsSign sign negative → IsDigits digits ds →
      ds.length ≤ digitLimit → (∀ c ∈ after, isBlank c) →
      IsNumeral (before ++ (sign ++ digits) ++ after) (signed negative ds)

/-! ### Characters -/

/-- No blank, sign, colon or underscore lies among the digits of a script. -/
theorem apart_of_mem_decimalZeros :
    ∀ z ∈ decimalZeros,
  0x30 ≤ z ∧ (z + 10 ≤ 0x3a ∨ 0x660 ≤ z) ∧ (z + 10 ≤ 0x1680 ∨ 0x1680 < z) ∧
    (z + 10 ≤ 0x2000 ∨ 0x3000 < z)
  := by
  decide

theorem exists_zero_of_decimalValue? {c : Char} {d : Nat} (h : decimalValue? c = some d) :
  ∃ z ∈ decimalZeros, z ≤ c.toNat ∧ c.toNat < z + 10
  := by
  obtain ⟨z, hz, -⟩ := Option.map_eq_some_iff.1 h
  refine ⟨z, List.mem_of_find?_eq_some hz, ?_⟩
  simpa using List.find?_some hz

theorem toNat_of_isBlank {c : Char} (h : isBlank c) :
  c.toNat ≤ 0x20 ∨ c.toNat = 0x85 ∨ c.toNat = 0xa0 ∨ c.toNat = 0x1680 ∨
    (0x2000 ≤ c.toNat ∧ c.toNat ≤ 0x3000)
  := by
  simp only [isBlank, isAsciiBlank, isWideBlank, Bool.or_eq_true, Bool.and_eq_true, beq_iff_eq,
    decide_eq_true_eq] at h
  rcases h with (rfl | h) | h
  · left
    decide
  · omega
  · omega

theorem not_isBlank_of_decimalValue? {c : Char} {d : Nat} (h : decimalValue? c = some d) :
  ¬ isBlank c
  := by
  intro hblank
  obtain ⟨z, hz, hlow, hhigh⟩ := exists_zero_of_decimalValue? h
  have hapart := apart_of_mem_decimalZeros z hz
  have hnat := toNat_of_isBlank hblank
  omega

/-- A digit is neither a sign nor a mark of punctuation. -/
theorem ne_of_decimalValue? {c c' : Char} {d : Nat} (h : decimalValue? c = some d)
    (hc' : c'.toNat < 0x30 ∨ 0x3a ≤ c'.toNat ∧ c'.toNat < 0x660) :
  c ≠ c'
  := by
  rintro rfl
  obtain ⟨z, hz, hlow, hhigh⟩ := exists_zero_of_decimalValue? h
  have hapart := apart_of_mem_decimalZeros z hz
  omega

theorem decimalValue?_of_isDigit {c : Char} (h : c.isDigit) :
  decimalValue? c = some (c.toNat - 0x30)
  := by
  have hrange : 0x30 ≤ c.toNat ∧ c.toNat < 0x30 + 10 := by
    simp only [Char.isDigit, Bool.and_eq_true, decide_eq_true_eq, ge_iff_le,
      UInt32.le_iff_toNat_le] at h
    change 48 ≤ c.toNat ∧ c.toNat ≤ 57 at h
    omega
  simp [decimalValue?, decimalZeros, hrange]

/-! ### Digits -/

namespace IsDigits

variable {cs : List Char} {ds : List Nat}

theorem ne_nil (h : IsDigits cs ds) :
  ds ≠ []
  := by
  cases h <;> simp

/-- Digits begin with a digit. -/
theorem exists_head (h : IsDigits cs ds) :
  ∃ c cs' d, cs = c :: cs' ∧ decimalValue? c = some d
  := by
  cases h with
  | one hc => exact ⟨_, _, _, rfl, hc⟩
  | next hc _ => exact ⟨_, _, _, rfl, hc⟩
  | apart hc _ => exact ⟨_, _, _, rfl, hc⟩

/-- Digits end with a digit. -/
theorem exists_last (h : IsDigits cs ds) :
  ∃ cs' c d, cs = cs' ++ [c] ∧ decimalValue? c = some d
  := by
  induction h with
  | one hc => exact ⟨[], _, _, rfl, hc⟩
  | @next c _ _ _ _ _ ih =>
    obtain ⟨cs', c', d', rfl, hc'⟩ := ih
    exact ⟨c :: cs', c', d', rfl, hc'⟩
  | @apart c _ _ _ _ _ ih =>
    obtain ⟨cs', c', d', rfl, hc'⟩ := ih
    exact ⟨c :: '_' :: cs', c', d', rfl, hc'⟩

/-- Every character among digits is a digit or an underscore. -/
theorem eq_underscore_or (h : IsDigits cs ds) :
    ∀ c ∈ cs,
  c = '_' ∨ ∃ d, decimalValue? c = some d
  := by
  induction h with
  | one hc => simpa using .inr ⟨_, hc⟩
  | next hc _ ih => simpa using ⟨.inr ⟨_, hc⟩, ih⟩
  | apart hc _ ih => simpa using ⟨.inr ⟨_, hc⟩, ih⟩

/-- All the digits are taken. -/
theorem takeDigits_eq (h : IsDigits cs ds) :
  takeDigits cs = (ds, [])
  := by
  induction h with
  | one hc => simp [takeDigits, hc]
  | next hc hcs ih =>
    obtain ⟨c', cs', d', rfl, hc'⟩ := hcs.exists_head
    have hne : c' ≠ '_' := ne_of_decimalValue? hc' (by decide)
    simp [takeDigits, hc, hne, ih]
  | apart hc hcs ih =>
    obtain ⟨c', cs', d', rfl, hc'⟩ := hcs.exists_head
    simp [takeDigits, startsWithDigit, hc, hc', ih]

end IsDigits

/-- Where no digit is taken, none comes first, and the whole text is left over. -/
theorem takeDigits_of_eq_nil {cs : List Char} :
    (takeDigits cs).1 = [] →
  startsWithDigit cs = false ∧ (takeDigits cs).2 = cs
  := by
  fun_cases takeDigits cs with
  | case1 => simp [startsWithDigit]
  | case2 c hc => simp [startsWithDigit, hc]
  | case3 => simp
  | case4 c c' cs hc => simp [startsWithDigit, hc]
  | case5 => simp
  | case6 => simp

/-- Where digits are taken and nothing is left over, the text is made of digits. -/
theorem isDigits_of_takeDigits (cs : List Char) :
    ∀ {ds : List Nat}, takeDigits cs = (ds, []) → ds ≠ [] →
  IsDigits cs ds
  := by
  fun_induction takeDigits cs with
  | case1 => simp
  | case2 => simp
  | case3 c d hc =>
    rintro ds hds -
    obtain rfl : [d] = ds := by simpa using hds
    exact .one hc
  | case4 => simp
  | case5 c c' cs d hc hunderscore ih =>
    rintro ds hds -
    obtain ⟨rfl, hrest⟩ := Prod.mk.inj hds
    obtain ⟨rfl, hstart⟩ : c' = '_' ∧ startsWithDigit cs := by simpa using hunderscore
    refine .apart hc (ih (Prod.ext rfl hrest) ?_)
    intro hnil
    simp [(takeDigits_of_eq_nil hnil).1] at hstart
  | case6 c c' cs d hc hunderscore ih =>
    rintro ds hds -
    obtain ⟨rfl, hrest⟩ := Prod.mk.inj hds
    refine .next hc (ih (Prod.ext rfl hrest) ?_)
    intro hnil
    simp [(takeDigits_of_eq_nil hnil).2] at hrest

/-! ### Signs and blanks -/

theorem exists_sign_of_takeSign {cs body : List Char} {negative : Bool}
    (h : takeSign cs = (negative, body)) :
  ∃ sign, IsSign sign negative ∧ cs = sign ++ body
  := by
  unfold takeSign at h
  split at h
  · obtain ⟨rfl, rfl⟩ := Prod.mk.inj h
    exact ⟨_, .minus, rfl⟩
  · obtain ⟨rfl, rfl⟩ := Prod.mk.inj h
    exact ⟨_, .plus, rfl⟩
  · obtain ⟨rfl, rfl⟩ := Prod.mk.inj h
    exact ⟨_, .none, rfl⟩

/-- A sign in front of digits is taken. -/
theorem takeSign_append {sign digits : List Char} {negative : Bool} {ds : List Nat}
    (hsign : IsSign sign negative) (hdigits : IsDigits digits ds) :
  takeSign (sign ++ digits) = (negative, digits)
  := by
  obtain ⟨c, cs, d, rfl, hc⟩ := hdigits.exists_head
  cases hsign with
  | none =>
    have hminus : c ≠ '-' := ne_of_decimalValue? hc (by decide)
    have hplus : c ≠ '+' := ne_of_decimalValue? hc (by decide)
    simp [takeSign, hminus, hplus]
  | plus => rfl
  | minus => rfl

/-- A text is what is left of it between the blanks at its ends. -/
theorem exists_trimBlanks (cs : List Char) :
  ∃ before after, cs = before ++ trimBlanks cs ++ after ∧ (∀ c ∈ before, isBlank c) ∧
    ∀ c ∈ after, isBlank c
  := by
  set middle := cs.dropWhile isBlank
  refine ⟨cs.takeWhile isBlank, (middle.reverse.takeWhile isBlank).reverse, ?_,
    fun c hc => List.mem_takeWhile_imp hc, fun c hc => List.mem_takeWhile_imp (List.mem_reverse.1 hc)⟩
  have hmiddle : trimBlanks cs ++ (middle.reverse.takeWhile isBlank).reverse = middle := by
    rw [trimBlanks, ← List.reverse_append, List.takeWhile_append_dropWhile, List.reverse_reverse]
  rw [List.append_assoc, hmiddle, List.takeWhile_append_dropWhile]

/-- The blanks around a text that neither begins nor ends with one are taken away. -/
theorem trimBlanks_append {before body after : List Char} {first last : Char}
    {beginning ending : List Char} (hbefore : ∀ c ∈ before, isBlank c)
    (hafter : ∀ c ∈ after, isBlank c) (hbody : body = first :: ending)
    (hbody' : body = beginning ++ [last]) (hfirst : ¬ isBlank first) (hlast : ¬ isBlank last) :
  trimBlanks (before ++ body ++ after) = body
  := by
  have hfront : (before ++ body ++ after).dropWhile isBlank = body ++ after := by
    rw [List.append_assoc, List.dropWhile_append_of_pos hbefore, hbody]
    simp [hfirst]
  have hback : (body ++ after).reverse.dropWhile isBlank = body.reverse := by
    rw [List.reverse_append, List.dropWhile_append_of_pos (by simpa using hafter), hbody']
    simp [hlast]
  rw [trimBlanks, hfront, hback, List.reverse_reverse]

/-- A number after its sign begins with no blank. -/
theorem exists_head_append {sign digits : List Char} {negative : Bool} {ds : List Nat}
    (hsign : IsSign sign negative) (hdigits : IsDigits digits ds) :
  ∃ first ending, sign ++ digits = first :: ending ∧ ¬ isBlank first
  := by
  obtain ⟨c, cs, d, rfl, hc⟩ := hdigits.exists_head
  cases hsign with
  | none => exact ⟨c, cs, rfl, not_isBlank_of_decimalValue? hc⟩
  | plus => exact ⟨'+', c :: cs, rfl, by decide⟩
  | minus => exact ⟨'-', c :: cs, rfl, by decide⟩

/-! ### Reading -/

theorem readInt_of_isNumeral {s : String} {n : Int} (h : IsNumeral s.toList n) :
  readInt s = .ok n
  := by
  generalize hcs : s.toList = cs at h
  obtain ⟨hbefore, hsign, hdigits, hshort, hafter⟩ := h
  obtain ⟨first, ending, hfirst, hfirstBlank⟩ := exists_head_append hsign hdigits
  obtain ⟨cs', last, d, hlast, hlastDigit⟩ := hdigits.exists_last
  rw [readInt, hcs, trimBlanks_append hbefore hafter hfirst
      (by rw [hlast, ← List.append_assoc]) hfirstBlank (not_isBlank_of_decimalValue? hlastDigit),
    takeSign_append hsign hdigits]
  simp only [hdigits.takeDigits_eq]
  rw [if_neg (by omega), if_neg (by simp [hdigits.ne_nil])]
  rfl

theorem isNumeral_of_readInt {s : String} {n : Int} (h : readInt s = .ok n) :
  IsNumeral s.toList n
  := by
  obtain ⟨before, after, hs, hbefore, hafter⟩ := exists_trimBlanks s.toList
  unfold readInt at h
  rcases hsign : takeSign (trimBlanks s.toList) with ⟨negative, body⟩
  rcases hdigits : takeDigits body with ⟨ds, rest⟩
  simp only [hsign, hdigits] at h
  split at h
  · cases h
  · rename_i hshort
    split at h
    · cases h
    · rename_i hwhole
      obtain ⟨hne, rfl⟩ : ds ≠ [] ∧ rest = [] := by simpa using hwhole
      obtain ⟨sign, hsign', hbody⟩ := exists_sign_of_takeSign hsign
      obtain rfl : _ = n := Except.ok.inj h
      rw [hs, hbody]
      exact .mk hbefore hsign' (isDigits_of_takeDigits body hdigits hne) (by omega) hafter

/-- The texts that are read as whole numbers are the numerals. -/
theorem readInt_eq_ok_iff (s : String) (n : Int) :
  readInt s = .ok n ↔ IsNumeral s.toList n
  := by
  exact ⟨isNumeral_of_readInt, readInt_of_isNumeral⟩

theorem IsNumeral.colon_not_mem {cs : List Char} {n : Int} (h : IsNumeral cs n) :
  ':' ∉ cs
  := by
  obtain ⟨hbefore, hsign, hdigits, -, hafter⟩ := h
  simp only [List.mem_append, not_or]
  refine ⟨⟨fun hc => absurd (hbefore _ hc) (by decide), ?_, fun hc => ?_⟩,
    fun hc => absurd (hafter _ hc) (by decide)⟩
  · cases hsign <;> decide
  · obtain hc | ⟨d, hc⟩ := hdigits.eq_underscore_or _ hc
    · exact absurd hc (by decide)
    · exact ne_of_decimalValue? hc (by decide) rfl

/-! ### Printing -/

/-- Digits without underscores between them. -/
theorem isDigits_map {cs : List Char} (hcs : ∀ c ∈ cs, c.isDigit) (hne : cs ≠ []) :
  IsDigits cs (cs.map fun c => c.toNat - 0x30)
  := by
  induction cs with
  | nil => exact absurd rfl hne
  | cons c cs ih =>
    have hc := decimalValue?_of_isDigit (hcs c (by simp))
    cases cs with
    | nil => exact .one hc
    | cons c' cs => exact .next hc (ih (fun c hc => hcs c (List.mem_cons_of_mem _ hc)) (by simp))

/-- The decimal digits of a number, after a sign, are a numeral. -/
theorem isNumeral_toDigits {sign : List Char} {negative : Bool} {n : Nat}
    (hsign : IsSign sign negative) (hn : n < 10 ^ digitLimit) :
  IsNumeral (sign ++ Nat.toDigits 10 n) (if negative then -(n : Int) else n)
  := by
  have hdigits : IsDigits (Nat.toDigits 10 n) ((Nat.toDigits 10 n).map fun c => c.toNat - 0x30) :=
    isDigits_map (fun c hc => Nat.isDigit_of_mem_toDigits (by decide) (by decide) hc)
      Nat.toDigits_ne_nil
  have hvalue : ofDigits ((Nat.toDigits 10 n).map fun c => c.toNat - 0x30) = n := by
    rw [ofDigits, List.foldl_map]
    exact Nat.ofDigitChars_ten_toDigits
  have hshort : (Nat.toDigits 10 n).length ≤ digitLimit :=
    (Nat.length_toDigits_le_iff (by decide) (by decide)).2 hn
  have hnumeral : IsNumeral ([] ++ (sign ++ Nat.toDigits 10 n) ++ []) _ :=
    .mk (by simp) hsign hdigits (by simpa using hshort) (by simp)
  simpa [signed, hvalue] using hnumeral

/-- A number with no more digits than are converted at once is printed as a numeral. -/
theorem isNumeral_toString {n : Int} (hn : n.natAbs < 10 ^ digitLimit) :
  IsNumeral (toString n).toList n
  := by
  change IsNumeral n.repr.toList n
  rw [Int.repr_eq_if]
  split
  · rename_i hsign
    have hnumeral := isNumeral_toDigits .none (n := n.toNat) (by omega)
    simpa [Int.toNat_of_nonneg hsign] using hnumeral
  · rename_i hsign
    have hnumeral := isNumeral_toDigits .minus (n := (-n).toNat) (by omega)
    rw [if_pos rfl, Int.toNat_of_nonneg (by omega), Int.neg_neg] at hnumeral
    simpa using hnumeral

end GridUnion.Text
