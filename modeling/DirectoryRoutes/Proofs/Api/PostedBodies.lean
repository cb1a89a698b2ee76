import DirectoryRoutes.Api.Http
import DirectoryRoutes.Proofs.Api.RouteRequests
import DirectoryRoutes.Proofs.Json.ReaderFaults
import DirectoryRoutes.Proofs.Text.Utf8Encoding

/-! Posted bodies. What is read as a document is answered as a request, and what breaks the grammar
as a bad request. Octets that encode no text, integers that are too long and lists or objects that
are nested too deeply are answered as failures of the server.
-/

namespace DirectoryRoutes.Api

open Text (Utf8.encode)

def posting (body : List UInt8) : Request :=
  ⟨"POST", "/api/routes", body⟩

/-- The octets encode a text whose reading comes to this: a document, or the fault for which it is
none.
-/
def ReadsAs (depth : Nat) (body : List UInt8) (result : Except Json.Fault Data) : Prop :=
  ∃ text, body = Utf8.encode text ∧ Json.read depth text = result

/-- The document is an accepted request: an object that names tokens, chooses a marker or none, and
has all its tokens accepted.
-/
def AsksForRoute (fallback : Option Marker) (body : Data) : Prop :=
  IsObject body
  ∧ ∃ tokens marker,
      NamesTokens body tokens ∧ Chooses fallback body marker ∧ Page.Accepted tokens

-----------------------------------------------------------------------------------------
-- What octets are read as
-----------------------------------------------------------------------------------------

variable {depth : Nat}

/-- Octets are read in one way only, since they encode one text at most. -/
theorem ReadsAs.iff_eq {body : List UInt8} {result other : Except Json.Fault Data}
    (read : ReadsAs depth body result)
    : ReadsAs depth body other ↔ result = other := by
  obtain ⟨text, encoded, rfl⟩ := read
  constructor
  · intro again
    obtain ⟨text', encoded', rfl⟩ := again
    rw [← Text.Utf8.decode_eq_ok_iff] at encoded encoded'
    rw [Except.ok.inj (encoded.symm.trans encoded')]
  · rintro rfl
    exact ⟨text, encoded, rfl⟩

/-- Octets encode no text, or they are read as something. -/
theorem unencoded_or_readsAs (depth : Nat) (body : List UInt8)
    : (∀ text, body ≠ Utf8.encode text) ∨ ∃ result, ReadsAs depth body result := by
  by_cases encoded : ∃ text, body = Utf8.encode text
  · obtain ⟨text, encoded⟩ := encoded
    exact Or.inr ⟨Json.read depth text, text, encoded, rfl⟩
  · exact Or.inl (not_exists.mp encoded)

/-- Octets that encode no text are not read. -/
theorem not_readsAs_of_unencoded {body : List UInt8} (unencoded : ∀ text, body ≠ Utf8.encode text)
    (result : Except Json.Fault Data)
    : ¬ ReadsAs depth body result := by
  intro read
  obtain ⟨text, encoded, _⟩ := read
  exact unencoded text encoded

-----------------------------------------------------------------------------------------
-- How octets are answered
-----------------------------------------------------------------------------------------

/-- A body that is posted to the address of the routes comes to the handler. -/
theorem respond_posting (depth : Nat) (fallback : Option Marker) (body : List UInt8)
    : respond depth fallback (posting body) = post depth fallback body := by
  have resource
      : Resource.ofPath? (Text.Percent.matched (pathOf "/api/routes")) = some .routes := by
    decide +kernel
  simp [respond, answer, posting, resource, Resource.methods]

/-- The server fails for octets that encode no text. -/
theorem post_of_unencoded {body : List UInt8} (unencoded : ∀ text, body ≠ Utf8.encode text)
    (depth : Nat) (fallback : Option Marker)
    : post depth fallback body = internalError := by
  obtain ⟨fault, failed⟩ := Text.Utf8.exists_decode_eq_error_iff.mpr unencoded
  unfold post
  rw [failed]

/-- Octets are answered by what is read of them, by cases on the result. -/
theorem post_of_readsAs (fallback : Option Marker) {body : List UInt8}
    {result : Except Json.Fault Data}
    : ReadsAs depth body result
      → post depth fallback body
        = match result with
          | .ok d => (buildRoute fallback d).toResponse
          | .error .malformed => (reject .notJson).toResponse
          | .error .overlong => internalError
          | .error .tooDeep => internalError := by
  intro read
  obtain ⟨text, encoded, rfl⟩ := read
  have decoded := Text.Utf8.decode_eq_ok_iff.mpr encoded
  cases result : Json.read depth text with
  | ok d => simp only [post, decoded, result]
  | error fault => cases fault <;> simp only [post, decoded, result]

/-- A document is answered with a route if and only if it asks for one, and as a bad request if not.
-/
theorem status_buildRoute (fallback : Option Marker) (d : Data)
    : (buildRoute fallback d).status = 200 ∧ AsksForRoute fallback d
      ∨ (buildRoute fallback d).status = 400 ∧ ¬ AsksForRoute fallback d := by
  by_cases asks : AsksForRoute fallback d
  · obtain ⟨object, tokens, marker, named, chosen, accepted⟩ := id asks
    rw [buildRoute_of_answers (.found object named chosen accepted accepted.mapM_parse)]
    exact Or.inl ⟨rfl, asks⟩
  · obtain ⟨reply, answers⟩ := exists_answers fallback d
    rw [buildRoute_of_answers answers]
    cases answers with
    | found object named chosen accepted read =>
        exact absurd ⟨object, _, _, named, chosen, accepted⟩ asks
    | _ => exact Or.inr ⟨rfl, asks⟩

/-- A text within the limits is no failure of the server: a numeral that is too long and brackets
that go too deep would stand in it.
-/
theorem status_post_of_moderate (fallback : Option Marker) {text : List Char}
    (short : ¬ Json.HasLongNumeral text) (shallow : Json.openings text ≤ depth)
    : (post depth fallback (Utf8.encode text)).status = 200
      ∨ (post depth fallback (Utf8.encode text)).status = 400 := by
  have read : ReadsAs depth (Utf8.encode text) (Json.read depth text) := ⟨text, rfl, rfl⟩
  rw [post_of_readsAs fallback read]
  cases result : Json.read depth text with
  | ok d => exact (status_buildRoute fallback d).imp And.left And.left
  | error fault =>
      have cause := Json.read_cause result
      cases fault with
      | malformed => exact Or.inr rfl
      | overlong => exact absurd cause short
      | tooDeep => exact absurd cause (Nat.not_lt.mpr shallow)

/-- However a body goes on that opens more lists than there are levels, the server fails. -/
theorem status_post_of_nested (fallback : Option Marker) {count : Nat} (deep : depth < count)
    (rest : List Char)
    : (post depth fallback (Utf8.encode (List.replicate count '[' ++ rest))).status = 500 := by
  rw [post_of_readsAs fallback ⟨_, rfl, Json.read_nested deep rest⟩]
  rfl

/-- The server fails for every integer with more digits than an integer may have. -/
theorem status_post_of_long (fallback : Option Marker) {digits : List Char}
    (numeral : ∀ c ∈ digits, c.isDigit = true) (nonzero : digits.head? ≠ some '0')
    (long : Decimal.digitLimit < digits.length) (depth : Nat)
    : (post depth fallback (Utf8.encode digits)).status = 500 := by
  rw [post_of_readsAs fallback ⟨_, rfl, Json.read_long numeral nonzero long depth⟩]
  rfl

/-- Posted octets are answered with a route exactly if they are read as a document that asks for
one. What is read as another document, or breaks the grammar, is a bad request. The server fails
exactly for octets that encode no text and for the two other faults; it does not for a text whose
numerals are short enough and which opens few enough lists and objects.
-/
theorem status_posting_exact (depth : Nat) (fallback : Option Marker) (body : List UInt8)
    : let status := (respond depth fallback (posting body)).status
      (status = 200 ↔ ∃ d, ReadsAs depth body (.ok d) ∧ AsksForRoute fallback d)
      ∧ (status = 400
          ↔ ReadsAs depth body (.error .malformed)
            ∨ ∃ d, ReadsAs depth body (.ok d) ∧ ¬ AsksForRoute fallback d)
      ∧ (status = 500
          ↔ (∀ text, body ≠ Utf8.encode text)
            ∨ ReadsAs depth body (.error .overlong)
            ∨ ReadsAs depth body (.error .tooDeep))
      ∧ (status = 200 ∨ status = 400 ∨ status = 500)
      ∧ ∀ text,
          body = Utf8.encode text
          → ¬ Json.HasLongNumeral text
          → Json.openings text ≤ depth
          → status = 200 ∨ status = 400 := by
  intro status
  simp only [status, respond_posting, ← and_assoc]
  constructor
  · rcases unencoded_or_readsAs depth body with unencoded | ⟨result, read⟩
    · simp [post_of_unencoded unencoded, internalError, plain, unencoded,
        not_readsAs_of_unencoded unencoded]
    · have encoded : ¬ ∀ text, body ≠ Utf8.encode text := fun unencoded =>
        not_readsAs_of_unencoded unencoded result read
      simp only [post_of_readsAs fallback read, read.iff_eq, encoded, false_or]
      cases result with
      | ok d =>
          rcases status_buildRoute fallback d with ⟨success, asks⟩ | ⟨failure, other⟩
          · simp [Reply.toResponse, success, asks]
          · simp [Reply.toResponse, failure, other]
      | error fault =>
          cases fault with
          | malformed => simp [Reply.toResponse, reject]
          | overlong => simp [internalError, plain]
          | tooDeep => simp [internalError, plain]
  · rintro text rfl short shallow
    exact status_post_of_moderate fallback short shallow

/-- The server fails for an octet that occurs in no encoding, for one list too many inside another,
and for one digit too many.
-/
theorem status_posting_of_unreadable
    : let depth := 970
      (respond depth (some .page) (posting [0xFF])).status = 500
      ∧ (respond depth (some .page) (posting (Utf8.encode (List.replicate 971 '[')))).status = 500
      ∧ (respond depth (some .page) (posting (Utf8.encode (List.replicate 4301 '1')))).status
        = 500 := by
  intro depth
  simp only [respond_posting]
  refine ⟨?_, ?_, ?_⟩
  · decide +kernel
  · have deep : depth < 971 := by decide
    simpa only [List.append_nil] using status_post_of_nested (some .page) deep []
  · have numeral : ∀ c ∈ List.replicate 4301 '1', c.isDigit = true := by
      intro c member
      rw [List.eq_of_mem_replicate member]
      rfl
    apply status_post_of_long (some .page) numeral
    · simp only [List.head?_replicate]
      decide
    · rw [List.length_replicate]
      decide

end DirectoryRoutes.Api
