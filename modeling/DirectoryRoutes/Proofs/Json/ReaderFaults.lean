import DirectoryRoutes.Json.Reader
import Mathlib.Data.List.Infix
import Mathlib.Data.List.TakeWhile

/-! Why a document is not read. A reader leaves a rest of its text, and what it fails for, other
than a breach of the grammar, stands in the text: a numeral that is too long, or too many brackets
and braces.
-/

namespace DirectoryRoutes.Json

open Text

-----------------------------------------------------------------------------------------
-- Causes in a text
-----------------------------------------------------------------------------------------

/-- The character opens a list or an object. -/
def isOpening (c : Char) : Bool :=
  c = '[' || c = '{'

/-- The lists and objects that a text can open at most. -/
def openings (text : List Char) : Nat :=
  text.countP isOpening

/-- Somewhere in the text stands a run of more digits than an integer may have. -/
def HasLongNumeral (text : List Char) : Prop :=
  ∃ digits,
    digits <:+: text
    ∧ (∀ c ∈ digits, c.isDigit = true)
    ∧ Decimal.digitLimit < digits.length

/-- A numeral of the end of a text stands in the text. -/
theorem HasLongNumeral.of_suffix {rest text : List Char} (long : HasLongNumeral rest)
    (suffix : rest <:+ text)
    : HasLongNumeral text := by
  obtain ⟨digits, inside, numeral⟩ := long
  exact ⟨digits, inside.trans suffix.isInfix, numeral⟩

/-- The text holds what a fault is about, where lists and objects may be nested to a depth. -/
def Cause (depth : Nat) (text : List Char) : Fault → Prop
  | .malformed => True
  | .overlong => HasLongNumeral text
  | .tooDeep => depth < openings text

/-- What stands in the end of a text is a cause in the whole. -/
theorem Cause.of_suffix {depth : Nat} {rest text : List Char} {fault : Fault}
    (cause : Cause depth rest fault) (suffix : rest <:+ text)
    : Cause depth text fault := by
  cases fault with
  | malformed => trivial
  | overlong => exact HasLongNumeral.of_suffix cause suffix
  | tooDeep => exact Nat.lt_of_lt_of_le cause suffix.sublist.countP_le

/-- One more opening bracket allows for one more level. -/
theorem Cause.of_opened {depth : Nat} {c : Char} {rest : List Char} {fault : Fault}
    (opening : isOpening c = true) (cause : Cause depth rest fault)
    : Cause (depth + 1) (c :: rest) fault := by
  cases fault with
  | malformed => trivial
  | overlong => exact HasLongNumeral.of_suffix cause (List.suffix_cons c rest)
  | tooDeep =>
      simp only [Cause, openings, List.countP_cons_of_pos opening] at cause ⊢
      exact Nat.succ_lt_succ cause

/-- What was taken from a text leaves a rest of it, and a fault has its cause in the text. -/
def Explains {α : Type} {input : List Char} (depth : Nat)
    : Except Fault (Taken α input) → Prop
  | .ok taken => taken.rest <:+ input
  | .error fault => Cause depth input fault

/-- Readers one after the other: a fault of the first is one of both, and the second goes on with
what the first left.
-/
theorem Explains.bind {α β : Type} {inner outer : Nat} {part input : List Char}
    {first : Except Fault (Taken α part)} {next : Taken α part → Except Fault (Taken β input)}
    (explained : Explains inner first)
    (lift : ∀ {fault}, Cause inner part fault → Cause outer input fault)
    (after : ∀ taken, taken.rest <:+ part → Explains outer (next taken))
    : Explains outer (first >>= next) := by
  cases first with
  | ok taken => exact after taken explained
  | error fault => exact lift explained

-----------------------------------------------------------------------------------------
-- Values without parts
-----------------------------------------------------------------------------------------

/-- What is behind a text in quotes is an end of the input, by induction on what is read. -/
theorem textAfter_suffix {read s : List Nat} {input rest : List Char}
    (found : textAfter read input = some (s, rest))
    : rest <:+ input := by
  fun_induction textAfter read input with
  | case1 | case4 | case6 | case7 => cases found
  | case2 =>
      cases found
      exact List.suffix_cons _ _
  | case3 _ _ _ _ _ _ _ _ ih => exact (ih found).trans ⟨['\\', 'u', _, _, _, _], rfl⟩
  | case5 _ _ _ _ _ _ ih => exact (ih found).trans ⟨['\\', _], rfl⟩
  | case8 _ _ _ _ _ _ _ ih => exact (ih found).trans (List.suffix_cons _ _)

/-- A text in quotes fails by its grammar only. -/
theorem text_explains (depth : Nat) (input : List Char) : Explains depth (text input) := by
  unfold text
  split
  · rename_i found
    exact textAfter_suffix found
  · trivial

/-- What is behind digits is an end of the input. -/
theorem wholeDigits_suffix (cs : List Char) : (wholeDigits cs).2 <:+ cs :=
  ⟨_, wholeDigits_append cs⟩

/-- What is read as digits are digits. -/
theorem wholeDigits_isDigit (cs : List Char) : ∀ c ∈ (wholeDigits cs).1, c.isDigit = true := by
  unfold wholeDigits
  split
  · simp
  · exact List.all_eq_true.mp List.all_takeWhile

/-- What is behind a fraction is an end of the input. -/
theorem fractionDigits_suffix (cs : List Char) : (fractionDigits cs).2 <:+ cs := by
  unfold fractionDigits
  split
  · split
    · exact List.suffix_rfl
    · exact (List.dropWhile_suffix _).trans (List.suffix_cons _ _)
  · exact List.suffix_rfl

/-- What is behind the sign of a power is an end of the input. -/
theorem powerSign_suffix (cs : List Char) : (powerSign cs).2 <:+ cs := by
  unfold powerSign
  split
  · exact List.suffix_cons _ _
  · exact List.suffix_cons _ _
  · exact List.suffix_rfl

/-- What is behind a power is an end of the input. -/
theorem power_suffix (cs : List Char) : (power cs).2 <:+ cs := by
  unfold power
  split
  · rename_i c rest
    split
    · split
      · exact List.suffix_rfl
      · have behind : (powerSign rest).2 <:+ c :: rest :=
          (powerSign_suffix rest).trans (List.suffix_cons c rest)
        exact (List.dropWhile_suffix _).trans behind
    · exact List.suffix_rfl
  · exact List.suffix_rfl

/-- A number that is too long has a whole part that is. -/
theorem number_explains (depth : Nat) (negative : Bool) (input : List Char)
    : Explains depth (number negative input) := by
  have suffix : (power (fractionDigits (wholeDigits input).2).2).2 <:+ input :=
    ((power_suffix _).trans (fractionDigits_suffix _)).trans (wholeDigits_suffix input)
  simp only [number]
  split
  · trivial
  split
  · split
    · rename_i long
      exact ⟨(wholeDigits input).1, ⟨[], (wholeDigits input).2, wholeDigits_append input⟩,
        wholeDigits_isDigit input, long⟩
    · exact suffix
  · exact suffix

/-- What is behind a word is an end of the input. -/
theorem word?_suffix {α : Type} {input : List Char} {word : String × α} {taken : Taken α input}
    (found : Taken.word? input word = some taken)
    : taken.rest <:+ input := by
  unfold Taken.word? at found
  split at found
  · rename_i rest removed
    split at found
    · cases found
      exact ⟨_, List.isPrefixOf?_eq_some_iff_append_eq.mp removed⟩
    · cases found
  · cases found

/-- A value without items fails for a numeral that is too long, or by its grammar. -/
theorem scalar_explains (depth : Nat) (input : List Char) : Explains depth (scalar input) := by
  unfold scalar
  split
  · rename_i taken found
    obtain ⟨word, _, found⟩ := List.exists_of_findSome?_eq_some found
    exact word?_suffix found
  · split
    · refine (number_explains depth true _).bind (·.of_suffix (List.suffix_cons _ _)) ?_
      intro n behind
      exact behind.trans (List.suffix_cons _ _)
    · exact number_explains depth false _

-----------------------------------------------------------------------------------------
-- Lists and objects
-----------------------------------------------------------------------------------------

section

variable {depth : Nat} {inside : Reader Fault Data}

/-- What is behind the first character that is not left out is an end of the input. -/
theorem suffix_of_dropWhile {p : Char → Bool} {cs rest : List Char} {c : Char}
    (next : cs.dropWhile p = c :: rest)
    : rest <:+ cs :=
  (List.suffix_cons c rest).trans (next ▸ List.dropWhile_suffix p)

/-- What follows a separator behind a part is a shorter rest of the text. -/
theorem rest_after_separator {α : Type} {input rest : List Char} {c : Char} {part : Taken α input}
    (behind : part.rest <:+ input) (next : part.rest.dropWhile isBlank = c :: rest)
    : rest.dropWhile isBlank <:+ input ∧ (rest.dropWhile isBlank).length < input.length := by
  refine ⟨((List.dropWhile_suffix isBlank).trans (suffix_of_dropWhile next)).trans behind, ?_⟩
  have := length_dropWhile_le isBlank rest
  have := length_lt_of_dropWhile next
  have := part.shorter
  omega

/-- The items of a list are explained if each is, by induction on the length of the text. -/
theorem items_explains (explained : ∀ input, Explains depth (inside input)) (input : List Char)
    : Explains depth (items inside input) := by
  induction size : input.length using Nat.strongRecOn generalizing input with
  | _ n ih =>
      subst size
      unfold items
      refine (explained input).bind id ?_
      intro first behind
      split
      · rename_i rest next
        obtain ⟨suffix, shorter⟩ := rest_after_separator behind next
        refine (ih _ shorter _ rfl).bind (·.of_suffix suffix) ?_
        intro others after
        exact after.trans suffix
      · rename_i rest next
        exact (suffix_of_dropWhile next).trans behind
      · trivial

/-- A field fails as its value does, or by its grammar. -/
theorem field_explains (explained : ∀ input, Explains depth (inside input)) (input : List Char)
    : Explains depth (field inside input) := by
  unfold field
  split
  · rename_i rest
    have opened : rest <:+ '"' :: rest := List.suffix_cons '"' rest
    refine (text_explains depth rest).bind (·.of_suffix opened) ?_
    intro name behind
    split
    · rename_i afterColon next
      have suffix : afterColon.dropWhile isBlank <:+ '"' :: rest :=
        (((List.dropWhile_suffix isBlank).trans (suffix_of_dropWhile next)).trans behind).trans
          opened
      refine (explained _).bind (·.of_suffix suffix) ?_
      intro v after
      exact after.trans suffix
    · trivial
  · trivial

/-- The fields of an object are explained if their values are, by induction on the length of the
text.
-/
theorem fields_explains (explained : ∀ input, Explains depth (inside input))
    (read : List (String × Data)) (input : List Char)
    : Explains depth (fields inside read input) := by
  induction size : input.length using Nat.strongRecOn generalizing read input with
  | _ n ih =>
      subst size
      unfold fields
      refine (field_explains explained input).bind id ?_
      intro first behind
      dsimp only
      split
      · rename_i rest next
        obtain ⟨suffix, shorter⟩ := rest_after_separator behind next
        refine (ih _ shorter _ _ rfl).bind (·.of_suffix suffix) ?_
        intro others after
        exact after.trans suffix
      · rename_i rest next
        exact (suffix_of_dropWhile next).trans behind
      · trivial

/-- A list or an object fails as one of its values does, or by its grammar. -/
theorem container_explains (explained : ∀ input, Explains depth (inside input)) (opening : Char)
    (input : List Char)
    : Explains depth (container opening inside input) := by
  unfold container
  split
  · rename_i c rest next
    have suffix : c :: rest <:+ input := next ▸ List.dropWhile_suffix isBlank
    dsimp only
    split
    · split
      · exact (List.suffix_cons c rest).trans suffix
      · refine (items_explains explained _).bind (·.of_suffix suffix) ?_
        intro all after
        exact after.trans suffix
    · split
      · exact (List.suffix_cons c rest).trans suffix
      · refine (fields_explains explained _ _).bind (·.of_suffix suffix) ?_
        intro all after
        exact after.trans suffix
  · trivial

end

/-- Without room no list or object is read. -/
theorem value_zero_of_opening {c : Char} (opening : isOpening c = true) (rest : List Char)
    : value 0 (c :: rest) = .error .tooDeep := by
  have unquoted : c ≠ '"' := by
    rintro rfl
    simp [isOpening] at opening
  simp only [value]
  rw [if_neg unquoted, if_pos (by simpa [isOpening] using opening)]

/-- With room for one more, the values inside are read with the rest of the room. -/
theorem value_succ_of_opening {c : Char} (opening : isOpening c = true) (depth : Nat)
    (rest : List Char)
    : value (depth + 1) (c :: rest)
      = container c (value depth) rest >>= fun d => .ok d.afterFirst := by
  have unquoted : c ≠ '"' := by
    rintro rfl
    simp [isOpening] at opening
  simp only [value]
  rw [if_neg unquoted, if_pos (by simpa [isOpening] using opening)]

/-- A value that is no list or object fails as one without items. -/
theorem value_explains_of_not_opening {c : Char} (plain : isOpening c = false) (depth : Nat)
    (rest : List Char)
    : Explains depth (value depth (c :: rest)) := by
  have behind : rest <:+ c :: rest := List.suffix_cons c rest
  unfold value
  split
  · refine (text_explains depth rest).bind (·.of_suffix behind) ?_
    intro s after
    exact after.trans behind
  · rw [if_neg (by simpa [isOpening] using plain)]
    exact scalar_explains depth (c :: rest)

/-- A value is explained, by induction on the depth that is left: each level opens one bracket. -/
theorem value_explains (depth : Nat) (input : List Char) : Explains depth (value depth input) := by
  induction depth generalizing input with
  | zero =>
      cases input with
      | nil => trivial
      | cons c rest =>
          cases opening : isOpening c with
          | false => exact value_explains_of_not_opening opening 0 rest
          | true => simp [value_zero_of_opening opening, Explains, Cause, openings, opening]
  | succ depth ih =>
      cases input with
      | nil => trivial
      | cons c rest =>
          cases opening : isOpening c with
          | false => exact value_explains_of_not_opening opening (depth + 1) rest
          | true =>
              rw [value_succ_of_opening opening]
              refine (container_explains ih c rest).bind (Cause.of_opened opening) ?_
              intro d after
              exact after.trans (List.suffix_cons c rest)

/-- A document that cannot be read holds the cause. -/
theorem read_cause {depth : Nat} {document : List Char} {fault : Fault}
    (failed : read depth document = .error fault)
    : Cause depth document fault := by
  have explained := value_explains depth (document.dropWhile isBlank)
  unfold read at failed
  cases first : value depth (document.dropWhile isBlank) with
  | error fault' =>
      rw [first] at failed explained
      cases failed
      exact Cause.of_suffix explained (List.dropWhile_suffix isBlank)
  | ok taken =>
      rw [first] at failed
      simp only [bind, Except.bind] at failed
      split at failed
      · cases failed
      · cases failed
        trivial

-----------------------------------------------------------------------------------------
-- Documents that are not read
-----------------------------------------------------------------------------------------

/-- A list fails as its first item does, if that is a list. -/
theorem container_of_first {inside : Reader Fault Data} {rest : List Char} {fault : Fault}
    (failed : inside ('[' :: rest) = .error fault)
    : container '[' inside ('[' :: rest) = .error fault := by
  have here : ('[' :: rest).dropWhile isBlank = '[' :: rest := by
    simp [isBlank]
  unfold container
  split
  · rename_i c others next
    obtain ⟨rfl, rfl⟩ := List.cons.inj (here.symm.trans next)
    have first : items inside ('[' :: rest) = .error fault := by
      unfold items
      rw [failed]
      rfl
    simp only [if_pos, first]
    rfl
  · rename_i next
    rw [here] at next
    cases next

/-- More brackets at the front than levels make the reading fail, by induction on the levels,
whatever comes behind them.
-/
theorem value_nested (depth : Nat) (rest : List Char)
    : value depth (List.replicate (depth + 1) '[' ++ rest) = .error .tooDeep := by
  induction depth with
  | zero => exact value_zero_of_opening rfl rest
  | succ depth ih =>
      rw [List.replicate_succ, List.cons_append, value_succ_of_opening rfl]
      rw [List.replicate_succ, List.cons_append] at ih ⊢
      rw [container_of_first ih]
      rfl

/-- A document without white space at its front fails as its value does. -/
theorem read_of_value {depth : Nat} {document : List Char} {fault : Fault}
    (here : document.dropWhile isBlank = document) (failed : value depth document = .error fault)
    : read depth document = .error fault := by
  unfold read
  rw [here, failed]
  rfl

/-- A document that opens more lists than there are levels before it holds anything else is refused
for its depth.
-/
theorem read_nested {depth count : Nat} (deep : depth < count) (rest : List Char)
    : read depth (List.replicate count '[' ++ rest) = .error .tooDeep := by
  obtain ⟨more, rfl⟩ := Nat.exists_eq_add_of_lt deep
  have split : List.replicate (depth + more + 1) '[' ++ rest
      = List.replicate (depth + 1) '[' ++ (List.replicate more '[' ++ rest) := by
    rw [← List.append_assoc, ← List.replicate_add]
    congr 2
    omega
  rw [split]
  refine read_of_value ?_ (value_nested depth _)
  rw [List.replicate_succ, List.cons_append]
  simp [isBlank]

/-- What begins with neither a word nor a sign is read as a number without a sign. -/
theorem scalar_of_unsigned {input : List Char}
    (noWord : words.findSome? (Taken.word? input) = none) (unsigned : ∀ rest, input ≠ '-' :: rest)
    : scalar input = number false input := by
  unfold scalar
  rw [noWord]
  dsimp only
  split
  · exact absurd rfl (unsigned _)
  · rfl

/-- A digit is none of the other characters. -/
theorem ne_of_isDigit {c other : Char} (digit : c.isDigit = true) (plain : other.isDigit = false)
    : c ≠ other := by
  intro same
  simp [same, plain] at digit

/-- Digits without a fraction or an exponent behind them are an integer, which may be too long. -/
theorem number_long {negative : Bool} {first : Char} {others : List Char} (nonzero : first ≠ '0')
    (digits : ∀ c ∈ first :: others, c.isDigit = true)
    (long : Decimal.digitLimit < (first :: others).length)
    : number negative (first :: others) = .error .overlong := by
  have whole : wholeDigits (first :: others) = (first :: others, []) := by
    have all : (first :: others).takeWhile Char.isDigit = first :: others :=
      List.takeWhile_eq_self_iff.mpr digits
    have none : (first :: others).dropWhile Char.isDigit = [] :=
      List.dropWhile_eq_nil_iff.mpr digits
    unfold wholeDigits
    split
    · rename_i same
      cases same
      exact absurd rfl nonzero
    · rw [all, none]
  simp only [number, whole, fractionDigits, power]
  rw [dif_neg (by simp), if_pos (by simp), if_pos long]

/-- A document that is an integer with more digits than an integer may have is refused for its
length.
-/
theorem read_long {digits : List Char} (numeral : ∀ c ∈ digits, c.isDigit = true)
    (nonzero : digits.head? ≠ some '0') (long : Decimal.digitLimit < digits.length) (depth : Nat)
    : read depth digits = .error .overlong := by
  cases digits with
  | nil => exact absurd long (Nat.not_lt_zero _)
  | cons first others =>
      have ne {other : Char} (plain : other.isDigit = false) : first ≠ other :=
        ne_of_isDigit (numeral first (by simp)) plain
      have here : (first :: others).dropWhile isBlank = first :: others := by
        simp [isBlank, ne]
      have noWord : words.findSome? (Taken.word? (first :: others)) = none := by
        simp [words, Taken.word?, List.isPrefixOf?, ne, Ne.symm]
      refine read_of_value here ?_
      unfold value
      rw [if_neg (ne rfl), if_neg (by simp [ne])]
      rw [scalar_of_unsigned noWord (by simp [ne])]
      exact number_long (fun zero => nonzero (congrArg some zero)) numeral long

end DirectoryRoutes.Json
