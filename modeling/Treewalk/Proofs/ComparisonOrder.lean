import Mathlib.Data.List.Lex
import Mathlib.Data.String.Basic
import Mathlib.Order.Monotone.Basic
import Treewalk.Proofs.OperatorResults

/-!
# The order behind the comparison operators

Integers and texts each have one total order, and all six comparison operators describe it:
`==` and `!=`, which compare values by structure, as well as the four that read an ordering. For
texts the order is that of the code points and just as well that of the bytes in UTF-8. This is a
property of the encoding: the first byte of a character tells how many follow, longer encodings
start with larger bytes and carry larger code points, and among those of one length the bytes are
the digits of the code point, the leading ones first.
-/

namespace Treewalk

namespace Text

/-- The bytes of a text in UTF-8, as numbers. -/
def bytes (text : String) : List Nat :=
  text.toUTF8.data.toList.map UInt8.toNat

/-- The code points of a text. -/
def codePoints (text : String) : List Nat :=
  text.toList.map Char.toNat

/-- The bytes of a character. -/
def charBytes (char : Char) : List Nat :=
  (String.utf8EncodeChar char).map UInt8.toNat

/-- The bytes of a text are those of its characters, one after the other. -/
theorem bytes_eq (text : String) : bytes text = text.toList.flatMap charBytes := by
  have encoded : text.toUTF8.data.toList = text.toList.flatMap String.utf8EncodeChar := by
    rw [String.toUTF8_eq_toByteArray, ← String.utf8Encode_toList, List.utf8Encode,
      List.toList_data_toByteArray]
  rw [bytes, encoded, List.map_flatMap]
  rfl

/-- Code points end below this bound. -/
theorem toNat_lt (char : Char) : char.toNat < 0x110000 := by
  have valid : char.toNat < 0xd800 ∨ 0xdfff < char.toNat ∧ char.toNat < 0x110000 := char.valid
  omega

/-- A character takes one to four bytes. After the first byte, each holds six bits of the code
point. -/
theorem charBytes_cases (char : Char) :
    char.toNat < 0x80 ∧ charBytes char = [char.toNat] ∨
    (0x80 ≤ char.toNat ∧ char.toNat < 0x800) ∧
      charBytes char = [0xc0 + char.toNat / 64, 0x80 + char.toNat % 64] ∨
    (0x800 ≤ char.toNat ∧ char.toNat < 0x10000) ∧
      charBytes char = [0xe0 + char.toNat / 4096, 0x80 + char.toNat / 64 % 64,
        0x80 + char.toNat % 64] ∨
    0x10000 ≤ char.toNat ∧
      charBytes char = [0xf0 + char.toNat / 262144, 0x80 + char.toNat / 4096 % 64,
        0x80 + char.toNat / 64 % 64, 0x80 + char.toNat % 64] := by
  have bounded := toNat_lt char
  have code : char.val.toNat = char.toNat := rfl
  simp only [charBytes, String.utf8EncodeChar, code]
  split
  · refine .inl ⟨by omega, ?_⟩
    simp
    omega
  split
  · refine .inr (.inl ⟨⟨by omega, by omega⟩, ?_⟩)
    simp
    omega
  split
  · refine .inr (.inr (.inl ⟨⟨by omega, by omega⟩, ?_⟩))
    simp
    omega
  · refine .inr (.inr (.inr ⟨by omega, ?_⟩))
    simp
    omega

/-- Every character takes at least one byte. -/
theorem charBytes_ne_nil (char : Char) : charBytes char ≠ [] :=
  fun empty => String.utf8EncodeChar_ne_nil (List.map_eq_nil_iff.mp empty)

/-- Of two encodings that start with different characters the bytes differ in those characters
already, whatever follows. -/
theorem charBytes_append_lt {left right : Char} (less : left < right) (rest other : List Nat) :
    charBytes left ++ rest < charBytes right ++ other := by
  have codes : left.toNat < right.toNat := less
  have bounded := toNat_lt right
  rcases charBytes_cases left with ⟨_, first⟩ | ⟨_, first⟩ | ⟨_, first⟩ | ⟨_, first⟩ <;>
    rcases charBytes_cases right with ⟨_, second⟩ | ⟨_, second⟩ | ⟨_, second⟩ | ⟨_, second⟩ <;>
    simp only [first, second, List.cons_append, List.nil_append, List.cons_lt_cons_iff] <;> omega

/-- The byte order of texts is decided at the first character in which they differ. -/
theorem flatMap_charBytes_lt {left right : List Char} (less : left < right) :
    left.flatMap charBytes < right.flatMap charBytes := by
  induction left generalizing right with
  | nil =>
    cases right with
    | nil => exact absurd less (List.not_lt_nil [])
    | cons char rest =>
      obtain ⟨byte, others, encoded⟩ := List.exists_cons_of_ne_nil (charBytes_ne_nil char)
      rw [List.flatMap_cons, encoded]
      exact List.nil_lt_cons byte _
  | cons first earlier inductionHypothesis =>
    cases right with
    | nil => exact absurd less (List.not_lt_nil _)
    | cons second later =>
      rw [List.flatMap_cons, List.flatMap_cons]
      rcases List.cons_lt_cons_iff.mp less with differ | ⟨rfl, lessAfter⟩
      · exact charBytes_append_lt differ _ _
      · exact List.append_left_lt (inductionHypothesis lessAfter)

/-- Texts are ordered as their bytes are. -/
theorem strictMono_bytes : StrictMono bytes := by
  intro left right less
  rw [bytes_eq, bytes_eq]
  exact flatMap_charBytes_lt less

/-- Texts are ordered as their code points are. -/
theorem strictMono_codePoints : StrictMono codePoints := by
  intro left right less
  exact List.map_lt (fun _ _ less => less) less

end Text

namespace Operator

/-- The comparison operators describe one total order of the values that the items stand for. -/
structure OrdersTotally {Item : Type} (value : Item → Value) : Prop where
  exactlyOne : ∀ left right, ∃! operator : Operator,
    operator ∈ [.less, .equal, .greater] ∧ operator.Affirms (value left) (value right)
  lessEqual_iff : ∀ left right,
    lessEqual.Affirms (value left) (value right) ↔ greater.Denies (value left) (value right)
  greaterEqual_iff : ∀ left right,
    greaterEqual.Affirms (value left) (value right) ↔ less.Denies (value left) (value right)
  swap : ∀ left right,
    less.apply (value left) (value right) = greater.apply (value right) (value left)
  trans : ∀ first second third, less.Affirms (value first) (value second) →
    less.Affirms (value second) (value third) → less.Affirms (value first) (value third)

/-- A map that keeps a linear order keeps what the comparisons ask. -/
theorem relates_of_strictMono {Key Other : Type} [LinearOrder Key] [LinearOrder Other]
    {view : Key → Other} (mono : StrictMono view) (operator : Operator) (left right : Key) :
    operator.Relates (view left) (view right) ↔ operator.Relates left right := by
  cases operator with
  | equal => exact mono.injective.eq_iff
  | notEqual => exact mono.injective.ne_iff
  | less => exact mono.lt_iff_lt
  | lessEqual => exact mono.le_iff_le
  | greater => exact mono.lt_iff_lt
  | greaterEqual => exact mono.le_iff_le
  | add => exact Iff.rfl
  | subtract => exact Iff.rfl
  | multiply => exact Iff.rfl

/-- Of two keys exactly one of less, equal and greater holds. -/
theorem existsUnique_relates {Key : Type} [LinearOrder Key] (left right : Key) :
    ∃! operator : Operator,
      operator ∈ [.less, .equal, .greater] ∧ operator.Relates left right := by
  have asked (operator : Operator) :
      operator ∈ [.less, .equal, .greater] ∧ operator.Relates left right ↔
        operator = .less ∧ left < right ∨ operator = .equal ∧ left = right ∨
          operator = .greater ∧ right < left := by
    cases operator <;> simp [Relates]
  simp only [asked]
  rcases lt_trichotomy left right with less | rfl | greater
  · simp [less, less.ne, less.not_gt]
  · simp
  · simp [greater, greater.ne', greater.not_gt]

/-- A comparison of texts answers by their order. -/
theorem apply_texts {operator : Operator} (comparison : operator.isComparison = true)
    (left right : String) :
    operator.apply (.str left) (.str right) =
      .ok (.bool (decide (operator.Relates left right))) := by
  apply apply_of_keys
  · exact beq_eq_decide left right
  · cases operator <;> first | rfl | cases comparison

section

variable {Item Key : Type} [LinearOrder Key] {value : Item → Value} {key : Item → Key}

/-- Comparisons that ask for the order of keys describe a total order. -/
theorem ordersTotally_of_keys
    (reads : ∀ operator : Operator, operator.isComparison = true → ∀ left right,
      operator.apply (value left) (value right) =
        .ok (.bool (decide (operator.Relates (key left) (key right))))) :
    OrdersTotally value := by
  have affirms (operator : Operator) (comparison : operator.isComparison = true)
      (left right : Item) : operator.Affirms (value left) (value right) ↔
        operator.Relates (key left) (key right) := by
    simp [Affirms, reads operator comparison]
  have denies (operator : Operator) (comparison : operator.isComparison = true)
      (left right : Item) : operator.Denies (value left) (value right) ↔
        ¬ operator.Relates (key left) (key right) := by
    simp [Denies, reads operator comparison]
  refine ⟨fun left right => ?_, fun left right => ?_, fun left right => ?_, fun left right => ?_,
    fun first second third => ?_⟩
  · obtain ⟨operator, ⟨listed, holds⟩, only⟩ := existsUnique_relates (key left) (key right)
    have comparison : ∀ operator ∈ [Operator.less, .equal, .greater],
        operator.isComparison = true := by decide
    refine ⟨operator, ⟨listed, (affirms _ (comparison _ listed) _ _).mpr holds⟩, ?_⟩
    rintro other ⟨member, affirmed⟩
    exact only other ⟨member, (affirms _ (comparison _ member) _ _).mp affirmed⟩
  · rw [affirms _ rfl, denies _ rfl]
    exact not_lt.symm
  · rw [affirms _ rfl, denies _ rfl]
    exact not_lt.symm
  · rw [reads _ rfl, reads _ rfl]
    rfl
  · rw [affirms _ rfl, affirms _ rfl, affirms _ rfl]
    exact lt_trans

end

/-- The comparison operators describe a total order of the integers and one of the texts. For texts
it is the lexicographic order of their bytes in UTF-8, and the lexicographic order of their code
points is the same. For all values `!=` is the negation of `==`. -/
theorem comparison_order :
    OrdersTotally Value.int ∧ OrdersTotally Value.str ∧
    (∀ operator : Operator, operator.isComparison = true → ∀ left right : String,
      operator.apply (.str left) (.str right) =
          .ok (.bool (decide (operator.Relates (Text.bytes left) (Text.bytes right)))) ∧
        (operator.Relates (Text.bytes left) (Text.bytes right) ↔
          operator.Relates (Text.codePoints left) (Text.codePoints right))) ∧
    (∀ left right : Value, ∃ flag, equal.apply left right = .ok (.bool flag) ∧
      notEqual.apply left right = .ok (.bool !flag)) := by
  refine ⟨ordersTotally_of_keys fun _ => apply_ints, ordersTotally_of_keys fun _ => apply_texts,
    fun operator comparison left right => ⟨?_, ?_⟩, fun left right => ⟨_, rfl, rfl⟩⟩
  · rw [apply_texts comparison]
    simp only [relates_of_strictMono Text.strictMono_bytes]
  · rw [relates_of_strictMono Text.strictMono_bytes,
      relates_of_strictMono Text.strictMono_codePoints]

end Operator

end Treewalk
