import DirectoryRoutes.FileSystem
import Mathlib.Data.List.Induction

/-! Texts that name places. A text that names something that exists leads to the same place when it
is tidied up, and is no longer for it.
-/

namespace DirectoryRoutes

-----------------------------------------------------------------------------------------
-- The length of a path
-----------------------------------------------------------------------------------------

namespace Text

/-- The octets of names, each with a separator. -/
def separatedSize : List String → Nat
  | [] => 0
  | name :: names => name.utf8ByteSize + 1 + separatedSize names

/-- Sizes of lists add up, by induction on the first list. -/
theorem separatedSize_append (left right : List String)
    : separatedSize (left ++ right) = separatedSize left + separatedSize right := by
  induction left with
  | nil => simp [separatedSize]
  | cons name names ih =>
      simp only [List.cons_append, separatedSize, ih]
      omega

/-- Each empty name counts for its separator alone, by induction on their number. -/
theorem separatedSize_replicate_empty (n : Nat) : separatedSize (List.replicate n "") = n := by
  induction n with
  | zero => rfl
  | succ n ih =>
      rw [List.replicate_succ, separatedSize, ih, String.utf8ByteSize_empty]
      omega

/-- Leaving out names makes nothing larger, by induction on what is kept. -/
theorem separatedSize_le {kept all : List String} (sublist : kept.Sublist all)
    : separatedSize kept ≤ separatedSize all := by
  induction sublist with
  | slnil => exact Nat.le_refl _
  | cons name _ ih => exact Nat.le_trans ih (Nat.le_add_left _ _)
  | cons_cons name _ ih => exact Nat.add_le_add_left ih _

/-- The size of names with separators between them, by induction on the names. -/
theorem utf8ByteSize_intercalate {names : List String} (nonempty : names ≠ [])
    : (String.intercalate "/" names).utf8ByteSize + 1 = separatedSize names := by
  induction names with
  | nil => exact absurd rfl nonempty
  | cons name names ih =>
      cases names with
      | nil => simp [separatedSize]
      | cons next names =>
          have rest := ih (by simp)
          have separator : ("/" : String).utf8ByteSize = 1 := by decide
          rw [String.intercalate_cons_cons]
          simp only [String.utf8ByteSize_append, separator]
          simp only [separatedSize] at rest ⊢
          omega

/-- Every text has a component. -/
theorem components_ne_nil (text : String) : components text ≠ [] := by
  simp [components, List.splitOn_ne_nil]

/-- The components with separators between them are the text. -/
theorem intercalate_components (text : String)
    : String.intercalate "/" (components text) = text := by
  have pieces : (components text).map String.toList = text.toList.splitOn '/' := by
    simp [components, Function.comp_def]
  rw [← String.toList_inj, String.toList_intercalate, pieces]
  exact List.intercalate_splitOn '/'

/-- The size of a text is that of its components. -/
theorem separatedSize_components (text : String)
    : separatedSize (components text) = text.utf8ByteSize + 1 := by
  rw [← utf8ByteSize_intercalate (components_ne_nil text), intercalate_components]

end Text

namespace Place

/-- The path of a place has a separator in front of each name. -/
theorem utf8ByteSize_text {place : Place} (below : place ≠ [])
    : place.text.utf8ByteSize = Text.separatedSize place.reverse := by
  have separator : ("/" : String).utf8ByteSize = 1 := by decide
  rw [text, String.utf8ByteSize_append, separator, Nat.add_comm]
  exact Text.utf8ByteSize_intercalate (by simpa using below)

/-- A name makes a shorter path in a directory higher up. -/
theorem fits_of_above {directory workingDirectory : Place} {name : String}
    (fits : isOverlong (name :: workingDirectory) = false) (above : directory <:+ workingDirectory)
    : isOverlong (name :: directory) = false := by
  have shorter : Text.separatedSize (directory.reverse ++ [name])
      ≤ Text.separatedSize (workingDirectory.reverse ++ [name]) :=
    Text.separatedSize_le (above.sublist.reverse.append (List.Sublist.refl _))
  simp only [isOverlong, decide_eq_false_iff_not, Nat.not_lt,
    utf8ByteSize_text (List.cons_ne_nil _ _), List.reverse_cons] at fits ⊢
  exact Nat.le_trans shorter fits

end Place

namespace PathName

/-- The absolute beginning stands for empty components before the others. -/
theorem exists_components_eq (text : String)
    : ∃ more,
        more ≠ []
        ∧ Text.components text = List.replicate (rootOf text).utf8ByteSize "" ++ more := by
  have root : ("/" : String).utf8ByteSize = 1 := by decide
  have apart : ("//" : String).utf8ByteSize = 2 := by decide
  unfold rootOf Text.components
  split
  · rename_i rest begins
    refine ⟨(('/' :: '/' :: rest).splitOn '/').map String.ofList, ?_, ?_⟩
    · simp [List.splitOn_ne_nil]
    · simp [begins, root, List.splitOn_cons_eq_if_modifyHead]
  · rename_i rest _ begins
    refine ⟨(rest.splitOn '/').map String.ofList, ?_, ?_⟩
    · simp [List.splitOn_ne_nil]
    · simp [begins, apart, List.splitOn_cons_eq_if_modifyHead]
  · rename_i rest _ _ begins
    refine ⟨(rest.splitOn '/').map String.ofList, ?_, ?_⟩
    · simp [List.splitOn_ne_nil]
    · simp [begins, root, List.splitOn_cons_eq_if_modifyHead]
  · exact ⟨_, Text.components_ne_nil text, rfl⟩

/-- Names are worth keeping unless they are empty or a single dot. -/
def keeps (name : String) : Bool :=
  name ≠ "" && name ≠ "."

/-- A path is named by the components that are kept. -/
theorem names_ofText (text : String) : (ofText text).names = (Text.components text).filter keeps :=
  rfl

/-- A text that is tidied up is no longer, unless it was empty. -/
theorem utf8ByteSize_text_le {text : String} (nonempty : text ≠ "")
    : (ofText text).text.utf8ByteSize ≤ text.utf8ByteSize := by
  obtain ⟨more, something, split⟩ := exists_components_eq text
  have whole := Text.separatedSize_components text
  have kept : Text.separatedSize (ofText text).names ≤ Text.separatedSize more := by
    apply Text.separatedSize_le
    rw [names_ofText, split, List.filter_append]
    have none : (List.replicate (rootOf text).utf8ByteSize "").filter keeps = [] := by
      simp [keeps]
    rw [none]
    exact List.filter_sublist
  have sizes : Text.separatedSize (Text.components text)
      = (rootOf text).utf8ByteSize + Text.separatedSize more := by
    rw [split, Text.separatedSize_append, Text.separatedSize_replicate_empty]
  unfold PathName.text
  split
  · have positive : text.utf8ByteSize ≠ 0 := by simpa using nonempty
    have dot : ("." : String).utf8ByteSize = 1 := by decide
    omega
  · rw [String.utf8ByteSize_append]
    show (rootOf text).utf8ByteSize + _ ≤ _
    by_cases empty : (ofText text).names = []
    · obtain ⟨first, rest, rfl⟩ := List.exists_cons_of_ne_nil something
      simp only [Text.separatedSize] at sizes
      simp only [empty, String.intercalate_nil, String.utf8ByteSize_empty]
      omega
    · have joined := Text.utf8ByteSize_intercalate empty
      omega

end PathName

namespace FileSystem

variable {fs : FileSystem}

-----------------------------------------------------------------------------------------
-- Where names lead
-----------------------------------------------------------------------------------------

/-- A name leads on from a directory: it stays, goes to the parent, or goes to what exists. -/
theorem follow_cons_eq_ok_iff {place target : Place} {name : String} {names : List String}
    : fs.follow place (name :: names) = .ok target
      ↔ fs.isDirectory place = true
        ∧ ∃ next,
            fs.follow next names = .ok target
            ∧ (PathName.keeps name = false ∧ next = place
              ∨ PathName.keeps name = true ∧ name = ".." ∧ next = place.tail
              ∨ PathName.keeps name = true
                ∧ name ≠ ".."
                ∧ name.utf8ByteSize ≤ nameLimit
                ∧ fs.isPresent (name :: place) = true
                ∧ next = name :: place) := by
  by_cases directory : fs.isDirectory place = true
  · by_cases stays : PathName.keeps name = false
    · have here : name = "" ∨ name = "." := by
        simpa [PathName.keeps, or_iff_not_imp_left] using stays
      simp [follow, directory, stays, here]
    · have away : ¬ (name = "" ∨ name = ".") := by
        simpa [PathName.keeps, or_iff_not_imp_left] using stays
      by_cases up : name = ".."
      · have kept : PathName.keeps ".." = true := by decide
        simp [follow, directory, up, kept]
      · rcases Nat.lt_or_ge nameLimit name.utf8ByteSize with long | short
        · simp [follow, directory, stays, away, up, long, Nat.not_le.mpr long]
        · by_cases present : fs.isPresent (name :: place) = true <;>
            simp [follow, directory, stays, away, up, short, present, Nat.not_lt.mpr short]
  · simp [follow, directory]

/-- Names that lead to a place lead there without those that stay, by induction on the names. -/
theorem follow_filter {place target : Place} {names : List String}
    (leads : fs.follow place names = .ok target)
    : fs.follow place (names.filter PathName.keeps) = .ok target := by
  induction names generalizing place with
  | nil => exact leads
  | cons name names ih =>
      obtain ⟨directory, next, onwards, way⟩ := follow_cons_eq_ok_iff.mp leads
      have rest := ih onwards
      cases kept : PathName.keeps name with
      | false =>
          rw [List.filter_cons_of_neg (by simp [kept])]
          simp only [kept, reduceCtorEq, false_and, or_false, true_and] at way
          exact way ▸ rest
      | true =>
          rw [List.filter_cons_of_pos kept]
          exact follow_cons_eq_ok_iff.mpr ⟨directory, next, rest, way⟩

/-- What a text names is found when the text is tidied up. -/
theorem locate_of_names {workingDirectory : Place} {text : String}
    (named : fs.names workingDirectory text = true)
    : ∃ place,
        fs.follow ((PathName.ofText text).start workingDirectory) (Text.components text) = .ok place
        ∧ fs.locate workingDirectory (PathName.ofText text) = .ok place := by
  simp only [FileSystem.names, Bool.and_eq_true, decide_eq_true_eq] at named
  obtain ⟨⟨nonempty, short⟩, leads⟩ := named
  cases reached : fs.follow ((PathName.ofText text).start workingDirectory)
      (Text.components text) with
  | error e => simp [reached, Except.isOk, Except.toBool] at leads
  | ok place =>
      have size := PathName.utf8ByteSize_text_le nonempty
      refine ⟨place, rfl, ?_⟩
      rw [locate, if_neg (by omega)]
      exact follow_filter reached

-----------------------------------------------------------------------------------------
-- What lies at a place
-----------------------------------------------------------------------------------------

/-- What exists lies in a directory, and the root is no file. -/
structure Rooted (fs : FileSystem) : Prop where
  parent : ∀ name place, fs.isPresent (name :: place) = true → fs.isDirectory place = true
  root : ∀ octets, fs.entry? [] ≠ some (.file octets)

/-- What exists and is no directory is a file. -/
theorem Rooted.isDirectory_iff (rooted : fs.Rooted) {place : Place}
    (present : fs.isDirectory place = true ∨ fs.isPresent place = true)
    : fs.isDirectory place = true ↔ ∀ octets, fs.entry? place ≠ some (.file octets) := by
  cases place with
  | nil => simpa [isDirectory] using rooted.root
  | cons name parent =>
      simp only [isDirectory, isPresent, decide_eq_true_eq] at present ⊢
      cases entry : fs.entry? (name :: parent) with
      | none => simp [entry] at present
      | some e => cases e <;> simp

/-- Names lead to what exists, by induction on the names. -/
theorem Rooted.present_of_follow (rooted : fs.Rooted) {place target : Place} {names : List String}
    (present : fs.isDirectory place = true ∨ fs.isPresent place = true)
    (leads : fs.follow place names = .ok target)
    : fs.isDirectory target = true ∨ fs.isPresent target = true := by
  induction names generalizing place with
  | nil =>
      cases leads
      exact present
  | cons name names ih =>
      obtain ⟨directory, next, onwards, way⟩ := follow_cons_eq_ok_iff.mp leads
      rcases way with ⟨_, rfl⟩ | ⟨_, _, rfl⟩ | ⟨_, _, _, there, rfl⟩
      · exact ih present onwards
      · cases place with
        | nil => exact ih present onwards
        | cons name parent =>
            have entry : fs.entry? (name :: parent) = some .directory := by
              simpa [isDirectory] using directory
            exact ih (Or.inl (rooted.parent name parent (by simp [isPresent, entry]))) onwards
      · exact ih (Or.inr there) onwards

end FileSystem

end DirectoryRoutes
