import DirectoryRoutes.Json.Printer

/-! The characters of JSON texts. Whatever a document holds, what is written of it are characters of
ASCII with a shape of their own, and line breaks.
-/

namespace DirectoryRoutes.Json

/-- A line break, or a character of ASCII that has a shape. -/
def isPlain (c : Char) : Bool :=
  c = '\n' || (' ' ≤ c && c ≤ '~')

/-- The text holds no characters but plain ones. -/
def Plain (text : String) : Prop :=
  ∀ c ∈ text.toList, isPlain c = true

instance (text : String) : Decidable (Plain text) :=
  decidable_of_iff (text.toList.all isPlain = true) List.all_eq_true

-----------------------------------------------------------------------------------------
-- Texts that are put together
-----------------------------------------------------------------------------------------

/-- A text is plain if and only if its parts are. -/
@[simp]
theorem plain_append_iff {left right : String}
    : Plain (left ++ right) ↔ Plain left ∧ Plain right := by
  simp only [Plain, String.toList_append, List.forall_mem_append]

/-- The characters of a list make up a plain text if and only if each is plain. -/
@[simp]
theorem plain_ofList_iff {cs : List Char}
    : Plain (String.ofList cs) ↔ ∀ c ∈ cs, isPlain c = true := by
  simp only [Plain, String.toList_ofList]

/-- Plain texts with a plain separator between them are plain, by induction on the texts. -/
theorem plain_intercalate {separator : String} (between : Plain separator) {texts : List String}
    (each : ∀ text ∈ texts, Plain text)
    : Plain (String.intercalate separator texts) := by
  induction texts with
  | nil => exact fun _ none => absurd none (by simp)
  | cons first rest ih =>
      have alone := each first List.mem_cons_self
      cases rest with
      | nil => simpa using alone
      | cons next rest =>
          rw [String.intercalate_cons_cons, plain_append_iff, plain_append_iff]
          exact ⟨⟨alone, between⟩, ih fun text member => each text (.tail _ member)⟩

-----------------------------------------------------------------------------------------
-- Texts and numbers
-----------------------------------------------------------------------------------------

/-- Hexadecimal digits are plain, by induction on their number. -/
theorem isPlain_of_mem_padded {width n : Nat} {c : Char} (member : c ∈ Text.Hex.padded width n)
    : isPlain c = true := by
  have digit : ∀ n < 16, isPlain (Text.Hex.digit n) = true := by decide
  induction width generalizing n with
  | zero => simp [Text.Hex.padded] at member
  | succ width ih =>
      rw [Text.Hex.padded, List.mem_append, List.mem_singleton] at member
      rcases member with before | rfl
      · exact ih before
      · exact digit _ (Nat.mod_lt _ (by decide))

/-- An escape of a unit is written with a backslash, a letter and digits. -/
theorem isPlain_of_mem_unitEscape {unit : Nat} {c : Char} (member : c ∈ unitEscape unit)
    : isPlain c = true := by
  simp only [unitEscape, List.mem_cons] at member
  rcases member with rfl | rfl | digits
  · rfl
  · rfl
  · exact isPlain_of_mem_padded digits

/-- Every character is written with plain ones: by its escape, or as it is if it has a shape. -/
theorem isPlain_of_mem_escape {c d : Char} (member : d ∈ escape c) : isPlain d = true := by
  have short {letter : Char} (plain : isPlain letter = true) (inside : d ∈ ['\\', letter])
      : isPlain d = true := by
    rcases List.mem_cons.mp inside with rfl | same
    · rfl
    · rw [List.mem_singleton.mp same, plain]
  unfold escape at member
  split at member
  · rename_i marked
    refine short ?_ member
    simp only [Bool.or_eq_true, decide_eq_true_eq] at marked
    rcases marked with rfl | rfl <;> rfl
  -- The characters with escapes of one letter.
  iterate 5
    split at member
    · exact short rfl member
  split at member
  · rename_i shaped
    rw [List.mem_singleton.mp member, isPlain, shaped, Bool.or_true]
  split at member
  · exact isPlain_of_mem_unitEscape member
  · rcases List.mem_append.mp member with high | low
    · exact isPlain_of_mem_unitEscape high
    · exact isPlain_of_mem_unitEscape low

/-- A text is written between quotation marks, each character plainly. -/
theorem plain_writeText (s : String) : Plain (writeText s) := by
  simp only [writeText, plain_ofList_iff, List.mem_append, List.mem_cons, List.mem_flatMap,
    List.not_mem_nil, or_false]
  rintro c ((rfl | ⟨d, _, escaped⟩) | rfl)
  · rfl
  · exact isPlain_of_mem_escape escaped
  · rfl

/-- Decimal digits are plain. -/
theorem isPlain_of_isDigit {c : Char} (digit : c.isDigit = true) : isPlain c = true := by
  simp only [Char.isDigit, Bool.and_eq_true, decide_eq_true_eq] at digit
  have low : ' ' ≤ c := UInt32.le_trans (by decide) digit.1
  have high : c ≤ '~' := UInt32.le_trans digit.2 (by decide)
  simp [isPlain, low, high]

/-- A natural number is written with digits. -/
theorem isPlain_of_mem_digitsOf {n : Nat} {c : Char} (member : c ∈ Decimal.digitsOf n)
    : isPlain c = true :=
  isPlain_of_isDigit (Nat.isDigit_of_mem_toDigits (by decide) (by decide) member)

/-- An integer is written with digits, and a sign if it is negative. -/
theorem plain_toString (n : Int) : Plain (toString n) := by
  have natural (n : Nat) : Plain (toString n) :=
    plain_ofList_iff.mpr fun _ member => isPlain_of_mem_digitsOf member
  cases n with
  | ofNat n => exact natural n
  | negSucc n =>
      have minus : Plain "-" := by decide
      exact plain_append_iff.mpr ⟨minus, natural (n + 1)⟩

/-- A point and zeros among plain digits are plain. -/
theorem isPlain_of_mem_positional {digits : List Char} {exponent : Int} {c : Char}
    (plain : ∀ d ∈ digits, isPlain d = true) (member : c ∈ Decimal.positional digits exponent)
    : isPlain c = true := by
  have zeros {n : Nat} (zero : c ∈ List.replicate n '0') : isPlain c = true := by
    rw [List.eq_of_mem_replicate zero]
    rfl
  unfold Decimal.positional at member
  dsimp only at member
  split at member
  · simp only [List.mem_append, List.mem_cons, List.not_mem_nil, or_false] at member
    rcases member with (whole | zero) | rfl | rfl
    · exact plain c whole
    · exact zeros zero
    · rfl
    · rfl
  · split at member
    · simp only [List.mem_append, List.mem_cons] at member
      rcases member with whole | rfl | fraction
      · exact plain c (List.mem_of_mem_take whole)
      · rfl
      · exact plain c (List.mem_of_mem_drop fraction)
    · simp only [List.cons_append, List.mem_append, List.mem_cons] at member
      rcases member with rfl | rfl | zero | fraction
      · rfl
      · rfl
      · exact zeros zero
      · exact plain c fraction

/-- Plain digits with a point and a power are plain. -/
theorem isPlain_of_mem_scientific {digits : List Char} {exponent : Int} {c : Char}
    (plain : ∀ d ∈ digits, isPlain d = true) (member : c ∈ Decimal.scientific digits exponent)
    : isPlain c = true := by
  simp only [Decimal.scientific, List.mem_append, List.mem_cons] at member
  rcases member with ((first | fraction) | rfl | sign | zero) | power
  · exact plain c (List.mem_of_mem_take first)
  · split at fraction
    · cases fraction
    · rcases List.mem_cons.mp fraction with rfl | rest
      · rfl
      · exact plain c (List.mem_of_mem_drop rest)
  · rfl
  · split at sign <;> rw [sign] <;> rfl
  · rw [List.eq_of_mem_replicate zero]
    rfl
  · exact isPlain_of_mem_digitsOf power

/-- A float is written with digits, signs, a point and a letter, or as a word. -/
theorem plain_writeFloat (x : Float) : Plain (writeFloat x) := by
  have signed (negative : Prop) [Decidable negative] : Plain (if negative then "-" else "") := by
    split <;> decide
  have layout (n : Decimal.Numeral) : Plain (String.ofList n.layout) := by
    rw [plain_ofList_iff]
    intro c member
    unfold Decimal.Numeral.layout at member
    dsimp only at member
    split at member
    · exact isPlain_of_mem_positional (fun _ => isPlain_of_mem_digitsOf) member
    · exact isPlain_of_mem_scientific (fun _ => isPlain_of_mem_digitsOf) member
  unfold writeFloat
  split
  · decide
  split
  · split <;> decide
  unfold Decimal.write
  dsimp only
  split
  · decide
  split
  · exact plain_append_iff.mpr ⟨signed _, by decide⟩
  split
  · exact plain_append_iff.mpr ⟨signed _, by decide⟩
  · exact plain_append_iff.mpr ⟨signed _, layout _⟩

-----------------------------------------------------------------------------------------
-- Documents
-----------------------------------------------------------------------------------------

/-- A line break and spaces are plain, by induction on the number of spaces. -/
theorem plain_newLine (depth : Nat) : Plain (newLine depth) := by
  have spaces (n : Nat) : Plain ("".pushn ' ' n) := by
    induction n with
    | zero => decide
    | succ n ih =>
        have pushed : "".pushn ' ' (n + 1) = ("".pushn ' ' n).push ' ' := rfl
        rw [pushed, Plain, String.toList_push, List.forall_mem_append, List.forall_mem_singleton]
        exact ⟨ih, rfl⟩
  exact plain_append_iff.mpr ⟨by decide, spaces _⟩

/-- Plain items between plain brackets, one a line, are plain. -/
theorem plain_enclose {depth : Nat} {opening closing : String} {items : List String}
    (opens : Plain opening) (closes : Plain closing) (each : ∀ item ∈ items, Plain item)
    : Plain (Style.indented.enclose depth opening closing items) := by
  unfold Style.enclose
  split
  · exact plain_append_iff.mpr ⟨opens, closes⟩
  · have comma : Plain "," := by decide
    have between := plain_append_iff.mpr ⟨comma, plain_newLine (depth + 1)⟩
    simp only [plain_append_iff]
    exact ⟨⟨⟨⟨opens, plain_newLine _⟩, plain_intercalate between each⟩, plain_newLine _⟩, closes⟩

mutual

/-- Values are written plainly at every depth, by induction on the value together with its items and
fields.
-/
theorem plain_writeAt (depth : Nat) : ∀ d : Data, Plain (writeAt .indented depth d)
  | .null => by simp only [writeAt]; decide
  | .bool value => by cases value <;> simp only [writeAt] <;> decide
  | .int value => by
      simp only [writeAt]
      exact plain_toString value
  | .float value => by
      simp only [writeAt]
      exact plain_writeFloat value
  | .text value | .moment value => by
      simp only [writeAt]
      exact plain_writeText value
  | .list items => by
      rw [writeAt]
      exact plain_enclose (by decide) (by decide) (plain_writeItems (depth + 1) items)
  | .record fields => by
      rw [writeAt]
      exact plain_enclose (by decide) (by decide) (plain_writeFields (depth + 1) fields)

/-- Items are written plainly, by induction on them together with their values. -/
theorem plain_writeItems (depth : Nat)
    : ∀ items : List Data, ∀ text ∈ writeItems .indented depth items, Plain text
  | [] => by simp [writeItems]
  | item :: items => by
      rw [writeItems, List.forall_mem_cons]
      exact ⟨plain_writeAt depth item, plain_writeItems depth items⟩

/-- Fields are written plainly, by induction on them together with their values. -/
theorem plain_writeFields (depth : Nat)
    : ∀ fields : List (String × Data), ∀ text ∈ writeFields .indented depth fields, Plain text
  | [] => by simp [writeFields]
  | (name, value) :: fields => by
      have colon : Plain ": " := by decide
      rw [writeFields, List.forall_mem_cons, plain_append_iff, plain_append_iff]
      exact ⟨⟨⟨plain_writeText name, colon⟩, plain_writeAt depth value⟩,
        plain_writeFields depth fields⟩

end

/-- What is written of a document is plain, whatever the document holds. -/
theorem plain_write (d : Data) : Plain (write .indented d) :=
  plain_writeAt 0 d

end DirectoryRoutes.Json
