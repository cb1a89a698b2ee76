import DirectoryRoutes.Config
import DirectoryRoutes.Proofs.Results
import DirectoryRoutes.Proofs.Segment.Records

/-! What a document says about settings. Each setting is the value under its key or a default; a
value of another kind is a fault, and the first fault in a fixed order is the reason why there are
no settings. Keys that are not known say nothing.
-/

namespace DirectoryRoutes

-----------------------------------------------------------------------------------------
-- Words that choose a marker
-----------------------------------------------------------------------------------------

/-- The word by which a default marker is chosen, or by which none is. -/
def pageTypeWord : Option Marker → String
  | none => "none"
  | some kind => kind.word

/-- A word chooses the marker that it is the word of, by cases on both. -/
theorem readPageType_eq_ok_iff {word : String} {marker : Option Marker}
    : readPageType word = .ok marker ↔ word = pageTypeWord marker := by
  unfold readPageType
  cases marker with
  | none =>
      split
      · simpa [pageTypeWord]
      · rename_i other
        split <;> simpa [pageTypeWord] using other
  | some kind =>
      rw [pageTypeWord, ← Marker.ofWord?_eq_some_iff]
      split
      · rename_i none
        simp [none, Marker.ofWord?]
      · cases Marker.ofWord? word <;> simp

/-- The words that choose a marker or none are those of the list. -/
theorem exists_readPageType_iff {word : String}
    : (∃ marker, readPageType word = .ok marker) ↔ word ∈ pageTypeChoices := by
  simp only [readPageType, Marker.ofWord?, pageTypeChoices, List.mem_cons, List.not_mem_nil,
    or_false]
  by_cases none : word = "none"
  · simp [none]
  · by_cases page : word = "page"
    · simp [page]
    · by_cases route : word = "route"
      · simp [route]
      · simp [none, page, route]

/-- Any other word is refused as unknown. -/
theorem readPageType_eq_error_iff {word : String} {reason : SettingError}
    : readPageType word = .error reason ↔ word ∉ pageTypeChoices ∧ reason = .pageTypeUnknown := by
  rw [← exists_readPageType_iff]
  unfold readPageType
  split
  · simp
  · cases Marker.ofWord? word <;> simp [eq_comm]

-----------------------------------------------------------------------------------------
-- Values under keys
-----------------------------------------------------------------------------------------

namespace Data

def isTable : Data → Bool
  | record _ => true
  | _ => false

def isText : Data → Bool
  | text _ => true
  | _ => false

/-- The value is an integer; no truth value is one. -/
def isInteger : Data → Bool
  | int _ => true
  | _ => false

/-- The value is a text other than the words that choose a marker. -/
def isUnknownWord : Data → Bool
  | text word => word ∉ pageTypeChoices
  | _ => false

/-- The value under a key of a section. -/
def setting? (document : Data) (title key : String) : Option Data :=
  (document.field? title).bind (·.field? key)

end Data

/-- The value of a setting: what replaces it, or else what is given for it, or else its default. -/
inductive Takes {α : Type} (write : α → Data) (default : α)
    : Option α → Option Data → α → Prop where
  | replaced {given : Option Data} {value : α} : Takes write default (some value) given value
  | given {value : α} : Takes write default none (some (write value)) value
  | missing : Takes write default none none default

section

variable {α : Type} {write : α → Data} {default value : α} {given : Option Data}

/-- A replacement is taken whatever else is given. -/
theorem takes_replaced_iff {replacement : α}
    : Takes write default (some replacement) given value ↔ value = replacement := by
  constructor
  · intro takes
    cases takes
    rfl
  · rintro rfl
    exact .replaced

/-- The default is taken where nothing is given. -/
@[simp]
theorem takes_missing_iff : Takes write default none none value ↔ value = default := by
  constructor
  · intro takes
    cases takes
    rfl
  · rintro rfl
    exact .missing

/-- What is given is taken where nothing replaces it. -/
@[simp]
theorem takes_given_iff {d : Data} : Takes write default none (some d) value ↔ d = write value := by
  constructor
  · intro takes
    cases takes
    rfl
  · rintro rfl
    exact .given

/-- A replacement comes before what was taken, by cases on whether there is one. -/
theorem Takes.replace (takes : Takes write default none given value) (replacement : Option α)
    : Takes write default replacement given (replacement.getD value) := by
  cases replacement with
  | none => exact takes
  | some value => exact .replaced

end

/-- The host is the text that is given, or its default if none is. -/
theorem readHost_eq_ok_iff {server : Data} {host : String}
    : readHost server = .ok host ↔ Takes .text "127.0.0.1" none (server.field? "host") host := by
  unfold readHost
  cases server.field? "host" with
  | none => simp [eq_comm]
  | some value => cases value <;> simp

/-- The port is the integer that is given, or its default if none is. -/
theorem readPort_eq_ok_iff {server : Data} {port : Int}
    : readPort server = .ok port ↔ Takes .int 8080 none (server.field? "port") port := by
  unfold readPort
  cases server.field? "port" with
  | none => simp [eq_comm]
  | some value => cases value <;> simp

/-- A host that is no text is refused. -/
theorem readHost_eq_error_iff {server : Data} {reason : SettingError}
    : readHost server = .error reason
      ↔ (server.field? "host").any (!·.isText) = true ∧ reason = .hostNotText := by
  unfold readHost
  cases server.field? "host" with
  | none => simp
  | some value => cases value <;> simp [Data.isText, eq_comm]

/-- A port that is no integer is refused. -/
theorem readPort_eq_error_iff {server : Data} {reason : SettingError}
    : readPort server = .error reason
      ↔ (server.field? "port").any (!·.isInteger) = true ∧ reason = .portNotInteger := by
  unfold readPort
  cases server.field? "port" with
  | none => simp
  | some value => cases value <;> simp [Data.isInteger, eq_comm]

/-- A host is read unless what is given is no text. -/
theorem exists_readHost_iff {server : Data}
    : (∃ host, readHost server = .ok host)
      ↔ (server.field? "host").any (!·.isText) = false := by
  cases read : readHost server with
  | ok host =>
      have unrefused : ¬ readHost server = .error .hostNotText := by simp [read]
      simpa using (not_congr readHost_eq_error_iff).mp unrefused
  | error e =>
      obtain ⟨refused, _⟩ := readHost_eq_error_iff.mp read
      simp [refused]

-----------------------------------------------------------------------------------------
-- Faults of a document
-----------------------------------------------------------------------------------------

namespace SettingError

/-- The faults of a server section, in the order in which they are looked for. -/
def ofServer : List SettingError :=
  [.serverNotTable, .hostNotText, .portNotInteger]

/-- The faults of a routes section, in the order in which they are looked for. -/
def ofRoutes : List SettingError :=
  [.routesNotTable, .pageTypeNotText, .pageTypeUnknown]

/-- The document has the fault. -/
def arises (document : Data) : SettingError → Bool
  | serverNotTable => (document.field? "server").any (!·.isTable)
  | hostNotText => (document.setting? "server" "host").any (!·.isText)
  | portNotInteger => (document.setting? "server" "port").any (!·.isInteger)
  | routesNotTable => (document.field? "routes").any (!·.isTable)
  | pageTypeNotText => (document.setting? "routes" "default_page_type").any (!·.isText)
  | pageTypeUnknown => (document.setting? "routes" "default_page_type").any (·.isUnknownWord)

end SettingError

/-- The first fault of a document. The server section is looked at before the routes section. -/
def firstFault? (document : Data) : Option SettingError :=
  (SettingError.ofServer ++ SettingError.ofRoutes).find? (·.arises document)

section

variable {document : Data}

/-- A server section is read if it is a table or missing and its settings are taken. -/
theorem readServer_eq_ok_iff (filled : document.field? "server" ≠ some .null)
    {server : ServerSettings}
    : readServer (document.fieldOrNull "server") = .ok server
      ↔ (document.field? "server").all (·.isTable) = true
        ∧ Takes .text "127.0.0.1" none (document.setting? "server" "host") server.host
        ∧ Takes .int 8080 none (document.setting? "server" "port") server.port := by
  rcases server with ⟨host, port⟩
  unfold Data.fieldOrNull Data.setting?
  cases given : document.field? "server" with
  | none => simp [readServer, eq_comm]
  | some value =>
      cases value with
      | null => exact absurd given filled
      | record fields =>
          simp [readServer, bind_eq_ok_iff, readHost_eq_ok_iff, readPort_eq_ok_iff, Data.isTable,
            pure, Except.pure]
      | _ => simp [readServer, Data.isTable]

/-- The first fault of a server section is the reason why it is refused. -/
theorem readServer_eq_error_iff (filled : document.field? "server" ≠ some .null)
    {reason : SettingError}
    : readServer (document.fieldOrNull "server") = .error reason
      ↔ SettingError.ofServer.find? (·.arises document) = some reason := by
  simp only [Data.fieldOrNull, SettingError.ofServer, List.find?_cons_eq_some, List.find?_nil,
    SettingError.arises, Data.setting?]
  cases given : document.field? "server" with
  | none => simp [readServer]
  | some value =>
      cases value with
      | null => exact absurd given filled
      | record fields =>
          simp [readServer, bind_eq_error_iff, readHost_eq_error_iff, readPort_eq_error_iff,
            exists_readHost_iff, Data.isTable, pure, Except.pure, @eq_comm _ reason]
      | _ => simp [readServer, Data.isTable]

/-- A routes section is read if it is a table or missing and its setting is taken. -/
theorem readRoutes_eq_ok_iff (filled : document.field? "routes" ≠ some .null)
    {marker : Option Marker}
    : readRoutes (document.fieldOrNull "routes") = .ok marker
      ↔ (document.field? "routes").all (·.isTable) = true
        ∧ Takes .text "page" none (document.setting? "routes" "default_page_type")
            (pageTypeWord marker) := by
  have default : some .page = marker ↔ pageTypeWord marker = "page" := by
    have chosen : readPageType "page" = .ok (some .page) := rfl
    rw [@eq_comm _ _ "page", ← readPageType_eq_ok_iff, chosen, Except.ok.injEq]
  unfold Data.fieldOrNull Data.setting?
  cases given : document.field? "routes" with
  | none => simpa [readRoutes] using default
  | some value =>
      cases value with
      | null => exact absurd given filled
      | record fields =>
          simp only [Option.getD_some, readRoutes, Option.bind_some]
          cases (Data.record fields).field? "default_page_type" with
          | none => simpa [Data.isTable] using default
          | some value => cases value <;> simp [readPageType_eq_ok_iff, Data.isTable]
      | _ => simp [readRoutes, Data.isTable]

/-- The first fault of a routes section is the reason why it is refused. -/
theorem readRoutes_eq_error_iff (filled : document.field? "routes" ≠ some .null)
    {reason : SettingError}
    : readRoutes (document.fieldOrNull "routes") = .error reason
      ↔ SettingError.ofRoutes.find? (·.arises document) = some reason := by
  simp only [Data.fieldOrNull, SettingError.ofRoutes, List.find?_cons_eq_some, List.find?_nil,
    SettingError.arises, Data.setting?]
  cases given : document.field? "routes" with
  | none => simp [readRoutes]
  | some value =>
      cases value with
      | null => exact absurd given filled
      | record fields =>
          simp only [Option.getD_some, readRoutes, Option.bind_some]
          cases (Data.record fields).field? "default_page_type" with
          | none => simp [Data.isTable]
          | some value =>
              cases value <;>
                simp [readPageType_eq_error_iff, Data.isTable, Data.isText, Data.isUnknownWord,
                  @eq_comm _ reason]
      | _ => simp [readRoutes, Data.isTable]

/-- A document in which no name stands for null has the first fault as the reason why it has no
settings.
-/
theorem ofDocument_eq_error_iff (filled : ∀ name, document.field? name ≠ some .null)
    {source : String} {reason : SettingError}
    : Config.ofDocument source document = .error reason
      ↔ firstFault? document = some reason := by
  have server (e : SettingError)
      : readServer (document.fieldOrNull "server") = .error e
        ↔ SettingError.ofServer.find? (·.arises document) = some e :=
    readServer_eq_error_iff (filled "server")
  have routes
      : readRoutes (document.fieldOrNull "routes") = .error reason
        ↔ SettingError.ofRoutes.find? (·.arises document) = some reason :=
    readRoutes_eq_error_iff (filled "routes")
  rw [firstFault?, List.find?_append, Option.or_eq_some_iff, ← server, ← routes]
  simp only [Config.ofDocument, bind_eq_error_iff, exists_and_right, pure, Except.pure,
    reduceCtorEq, and_false, exists_false, or_false]
  cases read : readServer (document.fieldOrNull "server") with
  | error e => simp [(server e).mp read]
  | ok settings =>
      have faultless : SettingError.ofServer.find? (·.arises document) = none := by
        refine Option.eq_none_iff_forall_ne_some.mpr fun e found => ?_
        simp [(server e).mpr found] at read
      simp [faultless]

/-- Settings are read from a document if both of its sections are. -/
theorem ofDocument_eq_ok_iff (filled : ∀ name, document.field? name ≠ some .null)
    {source : String} {c : Config}
    : Config.ofDocument source document = .ok c
      ↔ (document.field? "server").all (·.isTable) = true
        ∧ (document.field? "routes").all (·.isTable) = true
        ∧ Takes .text "127.0.0.1" none (document.setting? "server" "host") c.server.host
        ∧ Takes .int 8080 none (document.setting? "server" "port") c.server.port
        ∧ Takes .text "page" none (document.setting? "routes" "default_page_type")
            (pageTypeWord c.marker)
        ∧ c.source = some source := by
  rcases c with ⟨server, marker, source'⟩
  simp only [Config.ofDocument, bind_eq_ok_iff, readServer_eq_ok_iff (filled "server"),
    readRoutes_eq_ok_iff (filled "routes"), pure, Except.pure, Except.ok.injEq, Config.mk.injEq]
  constructor
  · rintro ⟨_, ⟨serverTable, host, port⟩, _, ⟨routesTable, word⟩, rfl, rfl, rfl⟩
    exact ⟨serverTable, routesTable, host, port, word, rfl⟩
  · rintro ⟨serverTable, routesTable, host, port, word, rfl⟩
    exact ⟨server, ⟨serverTable, host, port⟩, marker, ⟨routesTable, word⟩, rfl, rfl, rfl⟩

/-- What a document may say: a section that it has is a table, and a setting that it has is a value
of its kind.
-/
structure Sound (document : Data) : Prop where
  server : ∀ value ∈ document.field? "server", ∃ fields, value = .record fields
  host : ∀ value ∈ document.setting? "server" "host", ∃ host, value = .text host
  port : ∀ value ∈ document.setting? "server" "port", ∃ port, value = .int port
  routes : ∀ value ∈ document.field? "routes", ∃ fields, value = .record fields
  pageType
    : ∀ value ∈ document.setting? "routes" "default_page_type",
        ∃ word ∈ pageTypeChoices, value = .text word

/-- No value but a table is there, by cases on the value. -/
theorem any_not_isTable_iff {value? : Option Data}
    : value?.any (!·.isTable) = false ↔ ∀ value ∈ value?, ∃ fields, value = .record fields := by
  rcases value? with _ | value
  · simp
  · cases value <;> simp [Data.isTable]

/-- No value but a text is there, by cases on the value. -/
theorem any_not_isText_iff {value? : Option Data}
    : value?.any (!·.isText) = false ↔ ∀ value ∈ value?, ∃ text, value = .text text := by
  rcases value? with _ | value
  · simp
  · cases value <;> simp [Data.isText]

/-- No value but an integer is there, by cases on the value. -/
theorem any_not_isInteger_iff {value? : Option Data}
    : value?.any (!·.isInteger) = false ↔ ∀ value ∈ value?, ∃ n, value = .int n := by
  rcases value? with _ | value
  · simp
  · cases value <;> simp [Data.isInteger]

/-- No value but a word of the list is there, by cases on the value. -/
theorem any_isUnknownWord_iff {value? : Option Data}
    : value?.any (!·.isText) = false ∧ value?.any (·.isUnknownWord) = false
      ↔ ∀ value ∈ value?, ∃ word ∈ pageTypeChoices, value = .text word := by
  rcases value? with _ | value
  · simp
  · cases value <;> simp [Data.isText, Data.isUnknownWord]

/-- A document has no first fault if and only if no fault arises in it. -/
theorem firstFault?_eq_none_iff
    : firstFault? document = none ↔ ∀ reason : SettingError, reason.arises document = false := by
  have listed (reason : SettingError)
      : reason ∈ SettingError.ofServer ++ SettingError.ofRoutes := by
    cases reason <;> decide
  rw [firstFault?, List.find?_eq_none]
  constructor
  · intro faultless reason
    simpa using faultless reason (listed reason)
  · intro faultless reason _
    simp [faultless reason]

/-- A document is sound if and only if it has no first fault. -/
theorem sound_iff : Sound document ↔ firstFault? document = none := by
  rw [firstFault?_eq_none_iff]
  constructor
  · intro sound reason
    have pageType := any_isUnknownWord_iff.mpr sound.pageType
    cases reason with
    | serverNotTable => exact any_not_isTable_iff.mpr sound.server
    | hostNotText => exact any_not_isText_iff.mpr sound.host
    | portNotInteger => exact any_not_isInteger_iff.mpr sound.port
    | routesNotTable => exact any_not_isTable_iff.mpr sound.routes
    | pageTypeNotText => exact pageType.1
    | pageTypeUnknown => exact pageType.2
  · intro faultless
    exact {
      server := any_not_isTable_iff.mp (faultless .serverNotTable)
      host := any_not_isText_iff.mp (faultless .hostNotText)
      port := any_not_isInteger_iff.mp (faultless .portNotInteger)
      routes := any_not_isTable_iff.mp (faultless .routesNotTable)
      pageType :=
        any_isUnknownWord_iff.mp ⟨faultless .pageTypeNotText, faultless .pageTypeUnknown⟩
    }

-----------------------------------------------------------------------------------------
-- Keys that are not known
-----------------------------------------------------------------------------------------

/-- The keys that are known, by the sections in which they stand. -/
def knownKeys : List (String × List String) :=
  [("server", ["host", "port"]), ("routes", ["default_page_type"])]

/-- A table with nothing but the named fields; any other value stays as it is. -/
def Data.only (names : List String) : Data → Data
  | .record fields => .record (names.filterMap fun name => (Table.get? name fields).map (name, ·))
  | d => d

/-- Two documents say the same under every known key. -/
def SaySame (document document' : Data) : Prop :=
  ∀ known ∈ knownKeys,
    (document.field? known.1).map (Data.only known.2)
      = (document'.field? known.1).map (Data.only known.2)

/-- Of a table that is cut down to some names, these keep their values, by induction on the names.
-/
theorem get?_filterMap_get? (names : List String) (fields : Table Data) (name : String)
    : Table.get? name (names.filterMap fun n => (Table.get? n fields).map (n, ·))
      = if name ∈ names then Table.get? name fields else none := by
  induction names with
  | nil => rfl
  | cons first rest ih =>
      by_cases here : first = name
      · subst here
        cases found : Table.get? first fields <;> simp [found, Table.get?, ih]
      · cases found : Table.get? first fields <;> simp [found, Table.get?, ih, here, Ne.symm here]

/-- A record that is cut down to some names has the same values under them. -/
theorem field?_only {names : List String} {name : String} (named : name ∈ names) (d : Data)
    : (d.only names).field? name = d.field? name := by
  cases d with
  | record fields => simp [Data.only, Data.field?, get?_filterMap_get?, named]
  | _ => rfl

/-- A server section is read by its host and its port alone. -/
theorem readServer_only (server : Data)
    : readServer (server.only ["host", "port"]) = readServer server := by
  have host : (server.only ["host", "port"]).field? "host" = server.field? "host" :=
    field?_only (by simp) server
  have port : (server.only ["host", "port"]).field? "port" = server.field? "port" :=
    field?_only (by simp) server
  cases server with
  | record fields =>
      simp only [Data.only] at host port ⊢
      simp only [readServer, readHost, readPort, host, port]
  | _ => rfl

/-- A routes section is read by its default marker alone. -/
theorem readRoutes_only (routes : Data)
    : readRoutes (routes.only ["default_page_type"]) = readRoutes routes := by
  have word := field?_only (List.mem_singleton_self "default_page_type") routes
  cases routes with
  | record fields =>
      simp only [Data.only] at word ⊢
      simp only [readRoutes, word]
  | _ => rfl

/-- What stands under other keys has no effect. -/
theorem SaySame.ofDocument_eq {document' : Data} (same : SaySame document document')
    (source : String)
    : Config.ofDocument source document = Config.ofDocument source document' := by
  have only (title : String) (names : List String) (d : Data)
      : (d.fieldOrNull title).only names = ((d.field? title).map (Data.only names)).getD .null := by
    unfold Data.fieldOrNull
    cases d.field? title <;> rfl
  have server := same ("server", ["host", "port"]) (by simp [knownKeys])
  have routes := same ("routes", ["default_page_type"]) (by simp [knownKeys])
  unfold Config.ofDocument
  rw [← readServer_only, ← readServer_only (document'.fieldOrNull "server"), ← readRoutes_only,
    ← readRoutes_only (document'.fieldOrNull "routes"), only, only, only, only, server, routes]

end

end DirectoryRoutes
