import DirectoryRoutes.Proofs.Results
import DirectoryRoutes.UrlPath
import Mathlib.Data.List.Chain
import Mathlib.Data.List.Induction

/-! The order of the segments of a page. Appending looks at the last segment only, so it keeps the
order of neighbours; the order of all segments needs more, since a marker separates a catch-all from
what is appended after it.
-/

namespace DirectoryRoutes

/-- An element stands before the last position if and only if something comes after it. -/
theorem mem_dropLast_iff {α : Type} {list : List α} {a : α}
    : a ∈ list.dropLast ↔ ∃ before rest, list = before ++ a :: rest ∧ rest ≠ [] := by
  constructor
  · intro member
    have nonempty : list ≠ [] := by
      intro empty
      simp [empty] at member
    obtain ⟨before, between, split⟩ := List.append_of_mem member
    refine ⟨before, between ++ [list.getLast nonempty], ?_, by simp⟩
    rw [← List.cons_append, ← List.append_assoc, ← split, List.dropLast_append_getLast]
  · intro early
    obtain ⟨before, rest, rfl, nonempty⟩ := early
    rw [List.dropLast_append_cons, List.dropLast_cons_of_ne_nil nonempty]
    simp

/-- Of the elements that are kept, one stands before the last position if and only if another that
is kept comes after it.
-/
theorem mem_dropLast_filter_iff {α : Type} {keep : α → Bool} {list : List α} {a : α}
    : a ∈ (list.filter keep).dropLast
      ↔ ∃ before rest later,
          list = before ++ a :: rest
          ∧ keep a = true
          ∧ later ∈ rest
          ∧ keep later = true := by
  constructor
  · intro early
    obtain ⟨before, rest, split, nonempty⟩ := mem_dropLast_iff.mp early
    obtain ⟨front, back, rfl, _, kept⟩ := List.filter_eq_append_iff.mp split
    obtain ⟨skipped, behind, rfl, _, keeps, others⟩ := List.filter_eq_cons_iff.mp kept
    obtain ⟨later, member⟩ := List.exists_mem_of_ne_nil rest nonempty
    rw [← others, List.mem_filter] at member
    exact ⟨front ++ skipped, behind, later, by simp, keeps, member.1, member.2⟩
  · intro found
    obtain ⟨before, rest, later, rfl, keeps, member, keepsLater⟩ := found
    have behind : rest.filter keep ≠ [] :=
      List.ne_nil_of_mem (List.mem_filter.mpr ⟨member, keepsLater⟩)
    apply mem_dropLast_iff.mpr
    exact ⟨before.filter keep, rest.filter keep, by simp [keeps], behind⟩

/-- The segment may stand somewhere before another one: after a catch-all only markers come. -/
def Segment.MayPrecede (s later : Segment) : Prop :=
  s.isCatchAll = true → later.isMarker = true

/-- A catch-all is routable. -/
theorem Segment.isRoutable_of_isCatchAll {s : Segment} (catching : s.isCatchAll = true)
    : s.isRoutable = true := by
  cases s <;> simp_all [isCatchAll, isRoutable]

/-- No routable segment is a marker. -/
theorem Segment.isMarker_of_isRoutable (s : Segment) (routable : s.isRoutable = true)
    : s.isMarker = false := by
  cases s <;> simp_all [isMarker, isRoutable]

def UrlPath.CatchAllLast (u : UrlPath) : Prop :=
  ∀ s ∈ u.segments.dropLast, s.isCatchAll = false

namespace Page

def NeighboursOrdered (p : Page) : Prop :=
  p.segments.IsChain Segment.MayPrecede

/-- Any two segments are in order, however far apart: whatever comes after a catch-all is a marker.
-/
def Ordered (p : Page) : Prop :=
  p.segments.Pairwise Segment.MayPrecede

-----------------------------------------------------------------------------------------
-- Appending keeps neighbours in order
-----------------------------------------------------------------------------------------

/-- A page is closed if and only if its last segment is a catch-all. -/
theorem isClosed_eq_true_iff {p : Page}
    : p.isClosed = true ↔ ∃ last ∈ p.segments.getLast?, last.isCatchAll = true := by
  simp [isClosed, Option.any_eq_true]

/-- A segment is appended if and only if it is in order with the last one. -/
theorem append_eq_ok_iff {p q : Page} {s : Segment}
    : p.append s = .ok q
      ↔ (∀ last ∈ p.segments.getLast?, last.MayPrecede s) ∧ q = ⟨p.segments ++ [s]⟩ := by
  unfold append
  split
  · rename_i refused
    simp only [Bool.and_eq_true, isClosed_eq_true_iff, Bool.not_eq_true'] at refused
    obtain ⟨⟨last, isLast, catching⟩, unmarked⟩ := refused
    simp only [reduceCtorEq, false_iff, not_and]
    intro ordered
    exact absurd (ordered last isLast catching) (by simp [unmarked])
  · rename_i accepted
    simp only [Bool.and_eq_true, isClosed_eq_true_iff, Bool.not_eq_true', not_and] at accepted
    have ordered : ∀ last ∈ p.segments.getLast?, last.MayPrecede s := by
      intro last isLast catching
      simpa using accepted ⟨last, isLast, catching⟩
    constructor
    · intro appended
      cases appended
      exact ⟨ordered, rfl⟩
    · intro whole
      rw [whole.2]

/-- A segment is refused if and only if the page is closed and it is no marker. -/
theorem append_eq_error_iff {p : Page} {s : Segment} {e : SegmentError}
    : p.append s = .error e
      ↔ p.isClosed = true ∧ s.isMarker = false ∧ e = .invalidAppend s p.segments := by
  unfold append
  split
  · rename_i refused
    simp only [Bool.and_eq_true, Bool.not_eq_true'] at refused
    simp [refused, eq_comm]
  · rename_i accepted
    simp only [Bool.and_eq_true, Bool.not_eq_true'] at accepted
    simp only [reduceCtorEq, false_iff]
    intro refused
    exact accepted ⟨refused.1, refused.2.1⟩

/-- Where neighbours are in order, a catch-all before the last position has a marker behind it. -/
theorem NeighboursOrdered.exists_marker {p : Page} {s : Segment} (ordered : p.NeighboursOrdered)
    (early : s ∈ p.segments.dropLast) (catching : s.isCatchAll = true)
    : ∃ next ∈ p.segments, next.isMarker = true := by
  obtain ⟨before, rest, split, nonempty⟩ := mem_dropLast_iff.mp early
  obtain ⟨next, later, rfl⟩ := List.exists_cons_of_ne_nil nonempty
  rw [NeighboursOrdered, split, List.isChain_append_cons_cons] at ordered
  exact ⟨next, by simp [split], ordered.2.1 catching⟩

/-- Appending keeps neighbours in order: the only new pair is the last segment and the new one. -/
theorem NeighboursOrdered.append {p q : Page} {s : Segment} (ordered : p.NeighboursOrdered)
    (appended : p.append s = .ok q)
    : q.NeighboursOrdered := by
  obtain ⟨joined, rfl⟩ := append_eq_ok_iff.mp appended
  refine List.isChain_append.mpr ⟨ordered, List.isChain_singleton s, ?_⟩
  intro last isLast next isNext
  simp only [List.head?_cons, Option.mem_some_iff] at isNext
  exact isNext ▸ joined last isLast

/-- A page stays ordered when a token is added, by cases on whether it is empty. -/
theorem NeighboursOrdered.appendToken {p q : Page} {token : String}
    (ordered : p.NeighboursOrdered) (appended : p.appendToken token = .ok q)
    : q.NeighboursOrdered := by
  unfold Page.appendToken at appended
  split at appended
  · cases appended
    exact ordered
  · obtain ⟨s, _, appended⟩ := bind_eq_ok_iff.mp appended
    exact ordered.append appended

/-- The last token is added to the page of those before it. -/
theorem ofTokens_append_singleton (tokens : List String) (token : String)
    : ofTokens (tokens ++ [token]) = ofTokens tokens >>= (·.appendToken token) := by
  simp [ofTokens, List.foldlM_append]

/-- The last segment is added to the page of those before it. -/
theorem ofSegments_append_singleton (segments : List Segment) (s : Segment)
    : ofSegments (segments ++ [s]) = ofSegments segments >>= (·.append s) := by
  simp [ofSegments, List.foldlM_append]

/-- What a run of tokens builds has its neighbours in order, by induction on the tokens. -/
theorem neighboursOrdered_ofTokens {tokens : List String} {p : Page}
    (built : ofTokens tokens = .ok p)
    : p.NeighboursOrdered := by
  induction tokens using List.reverseRecOn generalizing p with
  | nil =>
      cases built
      exact .nil
  | append_singleton before token ih =>
      rw [ofTokens_append_singleton] at built
      obtain ⟨q, earlier, last⟩ := bind_eq_ok_iff.mp built
      exact (ih earlier).appendToken last

/-- Segments make a page if and only if neighbours are in order, and they are then its segments, by
induction on the segments.
-/
theorem ofSegments_eq_ok_iff {segments : List Segment} {p : Page}
    : ofSegments segments = .ok p
      ↔ segments.IsChain Segment.MayPrecede ∧ p = ⟨segments⟩ := by
  induction segments using List.reverseRecOn generalizing p with
  | nil => simp [ofSegments, empty, pure, Except.pure, eq_comm]
  | append_singleton before s ih =>
      simp only [ofSegments_append_singleton, bind_eq_ok_iff, ih, append_eq_ok_iff,
        List.isChain_append, List.isChain_singleton, List.head?_cons, Option.mem_some_iff,
        true_and]
      constructor
      · intro built
        obtain ⟨q, ⟨ordered, rfl⟩, joined, rfl⟩ := built
        exact ⟨⟨ordered, fun last isLast next same => same ▸ joined last isLast⟩, rfl⟩
      · intro chain
        obtain ⟨⟨ordered, joined⟩, rfl⟩ := chain
        exact ⟨⟨before⟩, ⟨ordered, rfl⟩, fun last isLast => joined last isLast s rfl, rfl⟩

/-- Segments make no page if and only if one of them directly follows a catch-all and is no marker.
The first one that does is the reason, by induction on the segments.
-/
theorem ofSegments_eq_error_iff {segments : List Segment} {e : SegmentError}
    : ofSegments segments = .error e
      ↔ ∃ before catcher next after,
          segments = before ++ catcher :: next :: after
          ∧ (before ++ [catcher]).IsChain Segment.MayPrecede
          ∧ catcher.isCatchAll = true
          ∧ next.isMarker = false
          ∧ e = .invalidAppend next (before ++ [catcher]) := by
  constructor
  · intro failed
    induction segments using List.reverseRecOn with
    | nil => cases failed
    | append_singleton front s ih =>
        rw [ofSegments_append_singleton, bind_eq_error_iff] at failed
        rcases failed with earlier | ⟨p, built, refused⟩
        · obtain ⟨before, catcher, next, after, rfl, first⟩ := ih earlier
          exact ⟨before, catcher, next, after ++ [s], by simp, first⟩
        · obtain ⟨ordered, rfl⟩ := ofSegments_eq_ok_iff.mp built
          obtain ⟨closed, unmarked, rfl⟩ := append_eq_error_iff.mp refused
          obtain ⟨catcher, last, catching⟩ := isClosed_eq_true_iff.mp closed
          obtain ⟨before, rfl⟩ := List.getLast?_eq_some_iff.mp last
          exact ⟨before, catcher, s, [], by simp, ordered, catching, unmarked, rfl⟩
  · intro first
    obtain ⟨before, catcher, next, after, rfl, ordered, catching, unmarked, rfl⟩ := first
    have built : ofSegments (before ++ [catcher]) = .ok ⟨before ++ [catcher]⟩ :=
      ofSegments_eq_ok_iff.mpr ⟨ordered, rfl⟩
    have closed : isClosed ⟨before ++ [catcher]⟩ = true :=
      isClosed_eq_true_iff.mpr ⟨catcher, by simp, catching⟩
    have refused := append_eq_error_iff.mpr ⟨closed, unmarked, rfl⟩
    unfold ofSegments at built ⊢
    rw [List.append_cons, List.foldlM_append, built]
    simp only [bind, Except.bind, List.foldlM_cons, refused]

-----------------------------------------------------------------------------------------
-- When all segments are in order
-----------------------------------------------------------------------------------------

/-- Behind a catch-all and the marker that closes it stands a segment of a kind. -/
def GoesOnWith (p : Page) (kind : Segment → Prop) : Prop :=
  ∃ before catcher closing between s after,
    p.segments = before ++ catcher :: closing :: (between ++ s :: after)
    ∧ catcher.isCatchAll = true
    ∧ closing.isMarker = true
    ∧ kind s

/-- A segment of a kind without markers that comes after a catch-all comes after its marker too: the
neighbour of the catch-all is a marker.
-/
theorem NeighboursOrdered.goesOnWith {p : Page} {kind : Segment → Prop}
    (ordered : p.NeighboursOrdered) (unmarked : ∀ s, kind s → s.isMarker = false)
    {before rest : List Segment} {catcher s : Segment}
    (split : p.segments = before ++ catcher :: rest) (catching : catcher.isCatchAll = true)
    (member : s ∈ rest) (isKind : kind s)
    : p.GoesOnWith kind := by
  cases rest with
  | nil => simp at member
  | cons closing others =>
      have neighbours := ordered
      rw [NeighboursOrdered, split, List.isChain_append_cons_cons] at neighbours
      have marked : closing.isMarker = true := neighbours.2.1 catching
      rcases List.mem_cons.mp member with rfl | later
      · simp [unmarked s isKind] at marked
      · obtain ⟨between, after, rfl⟩ := List.append_of_mem later
        exact ⟨before, catcher, closing, between, s, after, split, catching, marked, isKind⟩

/-- With neighbours in order, all segments are in order if and only if none but markers comes behind
the marker of a catch-all.
-/
theorem NeighboursOrdered.ordered_iff {p : Page} (neighbours : p.NeighboursOrdered)
    : p.Ordered ↔ ¬ p.GoesOnWith fun s => s.isMarker = false := by
  constructor
  · intro ordered behind
    obtain ⟨before, catcher, closing, between, s, after, split, catching, _, unmarked⟩ := behind
    rw [Ordered, split, List.pairwise_append, List.pairwise_cons] at ordered
    have marked : s.isMarker = true := ordered.2.1.1 s (by simp) catching
    simp [unmarked] at marked
  · intro closed
    refine List.pairwise_iff_forall_sublist.mpr ?_
    intro catcher s pair catching
    obtain ⟨front, back, split, inFront, inBack⟩ := List.cons_sublist_iff.mp pair
    obtain ⟨before, between, rfl⟩ := List.append_of_mem inFront
    by_contra unmarked
    have behind : s ∈ between ++ back :=
      List.mem_append_right between (List.singleton_sublist.mp inBack)
    exact closed (neighbours.goesOnWith (fun _ => id) (by simpa using split) catching behind
      (by simpa using unmarked))

/-- With neighbours in order, a catch-all ends the path of a page if and only if nothing routable
comes behind its marker.
-/
theorem NeighboursOrdered.catchAllLast_iff {p : Page} (neighbours : p.NeighboursOrdered)
    : p.urlPath.CatchAllLast ↔ ¬ p.GoesOnWith fun s => s.isRoutable = true := by
  constructor
  · intro last behind
    obtain ⟨before, catcher, closing, between, s, after, split, catching, marked, routable⟩ :=
      behind
    have early : catcher ∈ p.urlPath.segments.dropLast := by
      apply mem_dropLast_filter_iff.mpr
      exact ⟨before, closing :: (between ++ s :: after), s, split,
        Segment.isRoutable_of_isCatchAll catching, by simp, routable⟩
    simp [last catcher early] at catching
  · intro closed catcher early
    by_contra caught
    have catching : catcher.isCatchAll = true := by simpa using caught
    obtain ⟨before, rest, s, split, _, member, routable⟩ := mem_dropLast_filter_iff.mp early
    exact closed (neighbours.goesOnWith Segment.isMarker_of_isRoutable split catching member
      routable)

/-- A segment that is appended to a page in order leaves it in order if and only if it is a marker
or the page has no catch-all.
-/
theorem Ordered.append_iff {p q : Page} {s : Segment} (ordered : p.Ordered)
    (appended : p.append s = .ok q)
    : q.Ordered ↔ s.isMarker = true ∨ ∀ earlier ∈ p.segments, earlier.isCatchAll = false := by
  obtain ⟨_, rfl⟩ := append_eq_ok_iff.mp appended
  simp only [Ordered, List.pairwise_append, List.pairwise_singleton, List.mem_singleton,
    forall_eq, true_and, Segment.MayPrecede]
  constructor
  · intro chain
    obtain ⟨_, joined⟩ := chain
    by_cases marked : s.isMarker = true
    · exact Or.inl marked
    · refine Or.inr fun earlier member => ?_
      simpa using mt (joined earlier member) marked
  · intro cause
    rcases cause with marked | free
    · exact ⟨ordered, fun _ _ _ => marked⟩
    · exact ⟨ordered, fun earlier member catching => by simp [free earlier member] at catching⟩

end Page

end DirectoryRoutes
