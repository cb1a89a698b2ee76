import DirectoryRoutes.Proofs.Api.FoundRoutes
import DirectoryRoutes.Proofs.CommandLine.ShownRoutes

/-! The documents by which routes are answered. The marker stands at their end, and at most the
entry before it is a catch-all: this holds for the pages of names, though not for all pages, since a
marker that is appended reopens a page.
-/

namespace DirectoryRoutes

-----------------------------------------------------------------------------------------
-- Entries
-----------------------------------------------------------------------------------------

/-- A type and a name, as documents list them for each segment. -/
structure SegmentEntry where
  type : String
  name : String
deriving DecidableEq, Repr

namespace SegmentEntry

def toData (e : SegmentEntry) : Data :=
  .record [("type", .text e.type), ("name", .text e.name)]

def render (e : SegmentEntry) : String :=
  match e.type with
  | "dynamic" => "[" ++ e.name ++ "]"
  | "catch_all" => "[..." ++ e.name ++ "]"
  | "optional_catch_all" => "[[..." ++ e.name ++ "]]"
  | "group" => "(" ++ e.name ++ ")"
  | "parallel" => "@" ++ e.name
  | _ => e.name

def isCatchAll (e : SegmentEntry) : Bool :=
  ["catch_all", "optional_catch_all"].contains e.type

def isRoutable (e : SegmentEntry) : Bool :=
  ["static", "dynamic", "catch_all", "optional_catch_all"].contains e.type

def ofMarker (kind : Marker) : SegmentEntry :=
  ⟨"page_type", kind.word⟩

def ofSegment (s : Segment) : SegmentEntry :=
  ⟨s.shape, s.name⟩

def ofName (name : String) : SegmentEntry :=
  ofSegment (Segment.classify name)

/-- An entry is written as its segment is, by cases on the segment. -/
@[simp]
theorem render_ofSegment (s : Segment) : (ofSegment s).render = s.render := by
  cases s <;> rfl

/-- An entry is a catch-all if its segment is, by cases on the segment. -/
@[simp]
theorem isCatchAll_ofSegment (s : Segment) : (ofSegment s).isCatchAll = s.isCatchAll := by
  cases s <;> rfl

/-- An entry is routable if its segment is, by cases on the segment. -/
@[simp]
theorem isRoutable_ofSegment (s : Segment) : (ofSegment s).isRoutable = s.isRoutable := by
  cases s <;> rfl

/-- Only a marker has the type of markers. -/
theorem isMarker_of_type {s : Segment} (typed : (ofSegment s).type = "page_type")
    : s.isMarker = true := by
  cases s <;> simp_all [ofSegment, Segment.shape, Segment.isMarker]

/-- The characters of the name of a segment are among those of its text. -/
theorem mem_render_of_mem_name {s : Segment} {c : Char} (member : c ∈ (ofSegment s).name.toList)
    : c ∈ s.render.toList := by
  cases s <;> simp_all [ofSegment, Segment.name, Segment.render]

/-- A static segment is written as its name. -/
theorem render_eq_name_of_static {s : Segment} (static : (ofSegment s).type = "static")
    : s.render = (ofSegment s).name := by
  cases s <;> simp_all [ofSegment, Segment.shape, Segment.name, Segment.render]

/-- No name has the type of markers, since none is read as one. -/
theorem type_ofName_ne (name : String) : (ofName name).type ≠ "page_type" := by
  intro typed
  have marked := isMarker_of_type typed
  simp at marked

/-- The entry of a name is a catch-all if the name is written as one. -/
theorem isCatchAll_ofName_iff (name : String)
    : (ofName name).isCatchAll = true ↔ Segment.CatchAllToken name := by
  rw [ofName, isCatchAll_ofSegment, Segment.isCatchAll_classify_iff]

/-- An entry is called by a part of the name that it is read from. -/
theorem mem_of_mem_ofName {name : String} {c : Char} (member : c ∈ (ofName name).name.toList)
    : c ∈ name.toList := by
  have inside := mem_render_of_mem_name member
  rwa [Segment.render_classify] at inside

/-- A name that is read as static stays as it is. -/
theorem name_ofName_of_static {name : String} (static : (ofName name).type = "static")
    : (ofName name).name = name := by
  have whole := render_eq_name_of_static static
  rw [Segment.render_classify] at whole
  exact whole.symm

/-- No separator stands in the name of a marker. -/
theorem slash_not_mem_ofMarker (kind : Marker) : '/' ∉ (ofMarker kind).name.toList := by
  cases kind <;> decide

end SegmentEntry

open SegmentEntry (ofMarker ofName ofSegment)

/-- What a document says of a route, by its entries: the texts of all entries and of the routable
ones, and the entries themselves.
-/
def routeFields (entries : List SegmentEntry) : List (String × Data) :=
  [("page", .text (Text.rooted (entries.map (·.render)))),
   ("path", .text (Text.rooted ((entries.filter (·.isRoutable)).map (·.render)))),
   ("segments", .list (entries.map (·.toData)))]

/-- The entries of a route that is asked for with a marker. -/
structure EntriesInOrder (marker : Option Marker) (entries : List SegmentEntry) : Prop where
  /-- The marker is the last entry and the only one of its type, or there is none. -/
  ending : ∃ front,
    entries = front ++ marker.toList.map ofMarker ∧ ∀ e ∈ front, e.type ≠ "page_type"
  single : entries.countP (·.isCatchAll) ≤ 1
  /-- Only the marker comes behind a catch-all. -/
  closing : ∀ before catcher after,
    entries = before ++ catcher :: after
    → catcher.isCatchAll = true
    → after = marker.toList.map ofMarker
  last : ∀ e ∈ (entries.filter (·.isRoutable)).dropLast, e.isCatchAll = false
  plain : ∀ e ∈ entries, '/' ∉ e.name.toList
  named : ∀ e ∈ entries, e.type = "static" → e.name ≠ ""

-----------------------------------------------------------------------------------------
-- The entries of a page
-----------------------------------------------------------------------------------------

namespace Page

def entries (p : Page) : List SegmentEntry :=
  p.segments.map ofSegment

/-- The routable entries of a page are those of its URL path. -/
theorem filter_entries (p : Page)
    : p.entries.filter (·.isRoutable) = p.urlPath.segments.map ofSegment := by
  simp [entries, urlPath, UrlPath.ofSegments, List.filter_map, Function.comp_def]

/-- What a document says of a page is given by the entries of the page. -/
theorem routeFields_entries (p : Page)
    : routeFields p.entries
      = [("page", .text p.render),
         ("path", .text p.urlPath.render),
         ("segments", .list (p.segments.map Segment.toData))] := by
  have written (segments : List Segment)
      : Segment.renderAll segments = Text.rooted ((segments.map ofSegment).map (·.render)) := by
    simp [Segment.renderAll_eq_rooted, Function.comp_def]
  rw [routeFields, filter_entries, entries, ← written, ← written, List.map_map]
  rfl

end Page

-----------------------------------------------------------------------------------------
-- Their order
-----------------------------------------------------------------------------------------

section

variable {α : Type} {p : α → Bool} {list tail before after : List α} {a : α}

/-- Only the last item is counted if none before it is. -/
theorem countP_le_one_of_dropLast (free : ∀ x ∈ list.dropLast, p x = false)
    : list.countP p ≤ 1 := by
  rcases List.eq_nil_or_concat list with rfl | ⟨front, last, rfl⟩
  · simp
  · rw [List.concat_eq_append, List.dropLast_concat] at free
    have none : front.countP p = 0 := List.countP_eq_zero.mpr fun x inside => by simp [free x inside]
    rw [List.concat_eq_append, List.countP_append, none, Nat.zero_add]
    exact List.countP_le_length

/-- What holds of no element before the last of a list, and of none that are added behind it, holds
of that last one alone.
-/
theorem after_eq_of_append_eq (free : ∀ x ∈ list.dropLast, p x = false)
    (others : ∀ x ∈ tail, p x = false) (split : list ++ tail = before ++ a :: after)
    (holds : p a = true)
    : after = tail := by
  have outside : a ∉ tail := by
    intro member
    simp [others a member] at holds
  rcases List.append_eq_append_iff.mp split with ⟨between, _, rest⟩ | ⟨between, inside, rest⟩
  -- The element lies behind the list, or the list goes on with it.
  · have member : a ∈ tail := by simp [rest]
    exact absurd member outside
  · cases between with
    | nil =>
        rw [List.nil_append] at rest
        have member : a ∈ tail := by simp [← rest]
        exact absurd member outside
    | cons first between =>
        obtain ⟨rfl, rfl⟩ := List.cons.inj rest
        cases between with
        | nil => rfl
        | cons second between =>
            have early : a ∈ list.dropLast := mem_dropLast_iff.mpr ⟨before, _, inside, by simp⟩
            simp [free a early] at holds

end

namespace Page

/-- The entries of a page of names are those of the names, and that of the marker behind them. -/
theorem entries_ofNames (names : List String) (marker : Option Marker)
    : (ofNames names marker).entries = names.map ofName ++ marker.toList.map ofMarker := by
  rw [entries, ofNames, List.map_append, List.map_map, List.map_map]
  rfl

/-- No entry of a route is a catch-all but the last one. -/
theorem RouteNames.isCatchAll_eq_false {names : List String} (named : RouteNames names)
    : ∀ e ∈ (names.map ofName).dropLast, e.isCatchAll = false := by
  intro e early
  rw [← List.map_dropLast] at early
  obtain ⟨name, inside, rfl⟩ := List.mem_map.mp early
  rw [← Bool.not_eq_true, SegmentEntry.isCatchAll_ofName_iff]
  exact named.free name inside

/-- The entries of a page of names are in order: its names stand for no markers, and at most the
last of them for a catch-all.
-/
theorem RouteNames.entriesInOrder {names : List String} (named : RouteNames names)
    (marker : Option Marker)
    : EntriesInOrder marker (ofNames names marker).entries := by
  rw [entries_ofNames]
  have free := named.isCatchAll_eq_false
  have others : ∀ e ∈ marker.toList.map ofMarker, e.isCatchAll = false :=
    List.forall_mem_map.mpr fun _ _ => rfl
  have unroutable : ∀ e ∈ marker.toList.map ofMarker, e.isRoutable = false :=
    List.forall_mem_map.mpr fun _ _ => rfl
  constructor
  case ending =>
    exact ⟨_, rfl, List.forall_mem_map.mpr fun name _ => SegmentEntry.type_ofName_ne name⟩
  case single =>
    have none : (marker.toList.map ofMarker).countP (·.isCatchAll) = 0 :=
      List.countP_eq_zero.mpr fun e member => by simp [others e member]
    rw [List.countP_append, none, Nat.add_zero]
    exact countP_le_one_of_dropLast free
  case closing =>
    intro before catcher after split catching
    exact after_eq_of_append_eq free others split catching
  case last =>
    intro catcher early
    by_contra caught
    obtain ⟨before, rest, later, split, _, member, routable⟩ := mem_dropLast_filter_iff.mp early
    -- Whatever comes behind a catch-all is the marker, and a marker is not routable.
    rw [after_eq_of_append_eq free others split (by simpa using caught)] at member
    simp [unroutable later member] at routable
  case plain =>
    rw [List.forall_mem_append, List.forall_mem_map, List.forall_mem_map]
    refine ⟨?_, fun kind _ => SegmentEntry.slash_not_mem_ofMarker kind⟩
    intro name given slash
    exact (named.proper name given).2 (SegmentEntry.mem_of_mem_ofName slash)
  case named =>
    rw [List.forall_mem_append, List.forall_mem_map, List.forall_mem_map]
    constructor
    · intro name given static
      rw [SegmentEntry.name_ofName_of_static static]
      exact (named.proper name given).1
    · intro kind _ static
      simp [ofMarker] at static

end Page

-----------------------------------------------------------------------------------------
-- Answers
-----------------------------------------------------------------------------------------

/-- The document by which a request is answered lists the routable entries once more. -/
def answerFields (entries : List SegmentEntry) : List (String × Data) :=
  routeFields entries
    ++ [("pathSegments", .list ((entries.filter (·.isRoutable)).map (·.toData)))]

/-- A request is answered by the entries of its page. -/
theorem Api.describe_eq (p : Page) : Api.describe p = .record (answerFields p.entries) := by
  rw [answerFields, Page.routeFields_entries, Page.filter_entries, List.map_map]
  rfl

/-- Every answer that shows a route lists its entries in order, with the marker that was asked for:
an answer to a path, an answer to tokens, and what a run prints as JSON.
-/
theorem answers_in_order
    : (∀ fallback path,
        (Api.parseRoute fallback path).status = 200
        → ∃ entries,
            (Api.parseRoute fallback path).body = .record (answerFields entries)
            ∧ EntriesInOrder fallback entries)
      ∧ (∀ fallback body,
        (Api.buildRoute fallback body).status = 200
        → ∃ marker entries,
            Api.Chooses fallback body marker
            ∧ (Api.buildRoute fallback body).body = .record (answerFields entries)
            ∧ EntriesInOrder marker entries)
      ∧ ∀ (machine : CommandLine.Machine) fs workingDirectory arguments request,
        machine.Faithful
        → CommandLine.readInvocation (fs.names workingDirectory) arguments = .ok (.parse request)
        → request.json = true
        → (CommandLine.run machine fs workingDirectory arguments).exitCode = 0
        → ∃ marker entries,
            CommandLine.AsksForMarker machine fs workingDirectory request marker
            ∧ (CommandLine.run machine fs workingDirectory arguments).output
              = Json.write .indented (.record (routeFields entries)) ++ "\n"
            ∧ EntriesInOrder marker entries := by
  refine ⟨?_, ?_, ?_⟩
  · intro fallback path success
    obtain ⟨names, named, shown⟩ := Api.exists_names_of_parseRoute success
    exact ⟨_, shown.trans (Api.describe_eq _), named.entriesInOrder fallback⟩
  · intro fallback body success
    obtain ⟨names, marker, named, chosen, shown⟩ := Api.exists_names_of_buildRoute success
    exact ⟨marker, _, chosen, shown.trans (Api.describe_eq _), named.entriesInOrder marker⟩
  · intro machine fs workingDirectory arguments request faithful asked json success
    simp only [CommandLine.run, asked] at success ⊢
    obtain ⟨marker, page, asks, requested, shown⟩ :=
      CommandLine.exists_page_of_runParse success
    obtain ⟨names, named, rfl⟩ := Page.exists_names_of_ofTokens requested
    refine ⟨marker, _, asks, ?_, named.entriesInOrder marker⟩
    rw [shown, CommandLine.printed, if_pos json, faithful.output_write, Page.routeFields_entries]
    rfl

/-- A catch-all with the default marker, with none although one is the default, and with the marker
that the arguments choose.
-/
theorem closed_catchAll_in_order
    : let body := Data.record
        [("segments", .list [.text "(shop)", .text "[[...id]]"]), ("type", .null)]
      let machine := CommandLine.Machine.verbatim 970
      let fs := FileSystem.ofLists [] []
      let arguments := ["parse", "--json", "--type", "route", "/shop/[...id]/"]
      (∃ entries,
        (Api.parseRoute (some .page) "/shop/[...id]").body = .record (answerFields entries)
        ∧ EntriesInOrder (some .page) entries)
      ∧ (∃ entries,
        (Api.buildRoute (some .page) body).body = .record (answerFields entries)
        ∧ EntriesInOrder none entries)
      ∧ ∃ entries,
        (CommandLine.run machine fs [] arguments).output
          = Json.write .indented (.record (routeFields entries)) ++ "\n"
        ∧ EntriesInOrder (some .route) entries := by
  intro body machine fs arguments
  obtain ⟨byPath, byTokens, byRun⟩ := answers_in_order
  refine ⟨byPath _ _ (by decide), ?_, ?_⟩
  · obtain ⟨marker, entries, chosen, shown, ordered⟩ := byTokens (some .page) body (by decide)
    have none : Api.readMarker (some .page) body = .ok none := by rfl
    obtain rfl := Except.ok.inj (none.symm.trans (Api.readMarker_of_chooses chosen))
    exact ⟨entries, shown, ordered⟩
  · have asked : CommandLine.readInvocation (fs.names []) arguments
        = .ok (.parse { path := "/shop/[...id]/", pageType := some "route", json := true }) := by
      cbv
    obtain ⟨marker, entries, asks, shown, ordered⟩ :=
      byRun machine fs [] arguments _ (.verbatim 970) asked rfl (by decide +kernel)
    obtain ⟨loaded, config, load, override, rfl⟩ := asks
    obtain rfl := Except.ok.inj load
    obtain rfl := Except.ok.inj override
    exact ⟨entries, shown, ordered⟩

end DirectoryRoutes
