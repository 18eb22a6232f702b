import Mathlib
import TapeMachine.Source

/-! A fetched program is complete.
The bytes of a body do not depend on the chunks in which they arrive, nor does what is read of them
depend on how much room each read has. The limit is enforced by a reader that cuts off silently, one
byte behind the greatest number of bytes: a body that is read up to there is too large, and any
other one was read to its end.
-/

namespace TapeMachine

/-- The bytes of an array, as a list. -/
def octets (content : ByteArray) : List UInt8 := content.data.toList

@[simp]
theorem length_octets (content : ByteArray) : (octets content).length = content.size :=
  Array.length_toList

@[simp]
theorem octets_append (front back : ByteArray)
    : octets (front ++ back) = octets front ++ octets back := by
  simp [octets, ByteArray.data_append]

theorem octets_cut (content : ByteArray) (place : Nat)
    : octets content
      = octets (content.extract 0 place) ++ octets (content.extract place content.size) := by
  have back : (content.data.toList.drop place).length ≤ content.size - place := by
    rw [List.length_drop, Array.length_toList]
    exact Nat.le_refl _
  simp only [octets, ByteArray.data_extract, Array.toList_extract, List.extract_eq_take_drop,
    List.drop_zero, Nat.sub_zero]
  rw [List.take_of_length_le back, List.take_append_drop]

/-- All bytes of a body, however they are cut into chunks. -/
def Body.bytes (body : Body) : List UInt8 :=
  body.chunks.flatMap octets ++ octets body.last

/-- How many bytes can be had without what ends them: all, unless it comes with the last of them. -/
def Body.clear (body : Body) : Nat :=
  if body.last.size = 0 then body.bytes.length else body.bytes.length - 1

/-- What breaks the bytes of a body off comes in the read that gives the last of them. -/
structure Body.BreaksWithBytes (body : Body) (message : String) : Prop where
  broken : body.ending = .broken message
  bytes : body.last.size ≠ 0

-----------------------------------------------------------------------------------------
-- One read
-----------------------------------------------------------------------------------------

/-- A read takes a piece from the front of the bytes, and leaves the others as they would have come.
-/
structure Body.Gives (body : Body) (content : ByteArray) (rest : Body) : Prop where
  bytes : body.bytes = octets content ++ rest.bytes
  ending : rest.ending = body.ending
  last : rest.last.size = 0 ↔ body.last.size = 0

namespace Body

variable {body rest : Body} {room : Nat} {content : ByteArray}

theorem last_size_le (body : Body) : body.last.size ≤ body.bytes.length := by
  rw [bytes, List.length_append, length_octets]
  omega

theorem clear_le (body : Body) : body.clear ≤ body.bytes.length := by
  unfold clear
  split <;> omega

/-- What comes with the last byte of a body takes only that one away. -/
theorem lt_clear {limit : Nat} (more : limit < body.bytes.length)
    (alone : body.bytes.length = limit + 1 → body.last.size = 0)
    : limit < body.clear := by
  unfold clear
  split
  · exact more
  · have several : body.bytes.length ≠ limit + 1 := fun one => absurd (alone one) ‹_›
    omega

theorem Gives.clear (gives : body.Gives content rest)
    : body.clear = content.size + rest.clear := by
  have some := rest.last_size_le
  have total : body.bytes.length = content.size + rest.bytes.length := by
    rw [gives.bytes, List.length_append, length_octets]
  have last := gives.last
  unfold Body.clear
  by_cases alone : rest.last.size = 0
  · rw [if_pos alone, if_pos (last.mp alone), total]
  · rw [if_neg alone, if_neg fun empty => alone (last.mpr empty), total]
    omega

/-- All that a read can do: it takes a piece for which there is room and does not find the end, or
takes all that is left together with what ends it.
-/
theorem read_cases (body : Body) (room : Nat)
    : (∃ content rest,
          body.read room = ({ content }, rest) ∧ body.Gives content rest ∧ content.size ≤ room)
      ∨ body.bytes = octets body.last
        ∧ body.last.size ≤ room
        ∧ (body.read room).1 = { content := body.last, ending := some body.ending } := by
  unfold Body.read
  cases chunks : body.chunks with
  | nil =>
      by_cases fits : body.last.size ≤ room
      · refine Or.inr ⟨by simp [bytes, chunks], fits, ?_⟩
        simp only [fits, if_true]
      · refine Or.inl ⟨_, _, if_neg fits, ⟨?_, rfl, ?_⟩, ?_⟩
        · simp only [bytes, chunks, List.flatMap_nil, List.nil_append]
          exact octets_cut body.last room
        · simp only [ByteArray.size_extract]
          omega
        · rw [ByteArray.size_extract]
          omega
  | cons chunk others =>
      apply Or.inl
      by_cases fits : chunk.size ≤ room
      · exact ⟨_, _, if_pos fits, ⟨by simp [bytes, chunks], rfl, Iff.rfl⟩, fits⟩
      · refine ⟨_, _, if_neg fits, ⟨?_, rfl, Iff.rfl⟩, ?_⟩
        · simp only [bytes, chunks, List.flatMap_cons]
          rw [octets_cut chunk room, List.append_assoc, List.append_assoc, List.append_assoc]
        · rw [ByteArray.size_extract]
          omega

theorem gives_of_read (read : body.read room = ({ content }, rest))
    : body.Gives content rest ∧ content.size ≤ room := by
  rcases body.read_cases room with ⟨_, _, found, laws⟩ | ⟨_, _, found⟩
  · cases read.symm.trans found
    exact laws
  · rw [read] at found
    cases found

theorem ended_of_read {ending : BodyEnd}
    (read : (body.read room).1 = { content, ending := some ending })
    : body.bytes = octets content
      ∧ body.last = content
      ∧ body.ending = ending
      ∧ content.size ≤ room := by
  rcases body.read_cases room with ⟨_, _, found, _⟩ | ⟨bytes, fits, found⟩
  · rw [found] at read
    cases read
  · cases found.symm.trans read
    exact ⟨bytes, rfl, rfl, fits⟩

end Body

namespace LimitedBody

variable {source rest : LimitedBody} {room : Nat} {content : ByteArray}

theorem gives_of_read (read : source.read room = ({ content }, rest))
    : source.body.Gives content rest.body ∧ source.left = content.size + rest.left := by
  unfold LimitedBody.read at read
  split at read
  · cases (Prod.mk.inj read).1
  · obtain ⟨found, rfl⟩ := Prod.mk.inj read
    obtain ⟨gives, fits⟩ := Body.gives_of_read (Prod.ext found rfl)
    refine ⟨gives, ?_⟩
    simp only [found]
    omega

/-- A limited body ends at its limit, or where the body under it is ended. In that case what ends it
is found within the limit.
-/
theorem ended_of_read {ending : BodyEnd}
    (read : source.read room = ({ content, ending := some ending }, rest))
    : (source.left = 0 ∧ octets content = [] ∧ ending = .whole)
      ∨ source.body.ending = ending
        ∧ source.body.bytes = octets content
        ∧ (octets content).length ≤ source.left
        ∧ source.body.clear < source.left := by
  unfold LimitedBody.read at read
  split at read
  · rename_i spent
    cases (Prod.mk.inj read).1
    exact Or.inl ⟨spent, rfl, rfl⟩
  · rename_i more
    obtain ⟨bytes, rfl, same, fits⟩ := Body.ended_of_read (Prod.mk.inj read).1
    have length : source.body.bytes.length = source.body.last.size := by rw [bytes, length_octets]
    refine Or.inr ⟨same, bytes, by rw [length_octets]; omega, ?_⟩
    unfold Body.clear
    split <;> omega

-----------------------------------------------------------------------------------------
-- Reading to the end
-----------------------------------------------------------------------------------------

/-- What there is to read of a limited body: what breaks its bytes off, if that is found within the
limit, and otherwise as many bytes as the limit lets through.
-/
def outcome (source : LimitedBody) : Except String (List UInt8) :=
  match source.body.ending with
  | .whole => .ok (source.body.bytes.take source.left)
  | .broken message =>
    if source.body.clear < source.left then .error message
    else .ok (source.body.bytes.take source.left)

/-- A read takes from the front of what there is to read. -/
theorem outcome_of_read (read : source.read room = ({ content }, rest))
    : source.outcome = rest.outcome.map (octets content ++ ·) := by
  obtain ⟨gives, left⟩ := gives_of_read read
  have taken : source.body.bytes.take source.left
      = octets content ++ rest.body.bytes.take rest.left := by
    rw [gives.bytes, left, ← length_octets, List.take_length_add_append]
  have sooner : source.body.clear < source.left ↔ rest.body.clear < rest.left := by
    rw [gives.clear, left]
    omega
  unfold outcome
  rw [gives.ending, taken]
  cases source.body.ending with
  | whole => rfl
  | broken message =>
      simp only [sooner]
      split <;> rfl

/-- Reading to the end gives what there is to read, whatever the chunks are and whatever room the
reads have; by the reads.
-/
theorem readAll_eq (source : LimitedBody) (buffering : Buffering) (past : ByteArray)
    : (source.readAll buffering past).map octets = source.outcome.map (octets past ++ ·) := by
  fun_induction readAll source buffering past with
  | case1 source past content rest read ih =>
      rw [ih, outcome_of_read read]
      cases rest.outcome <;> simp [Except.map]
  | case2 source past content rest read =>
      rcases ended_of_read read with ⟨spent, nothing, _⟩ | ⟨whole, bytes, fits, _⟩
      · -- at the limit nothing is taken, and nothing that breaks the bytes off is found
        unfold outcome
        rw [spent, List.take_zero]
        cases source.body.ending <;> simp [Except.map, nothing]
      · simp [outcome, whole, bytes, List.take_of_length_le fits, Except.map]
  | case3 source past message content rest read =>
      rcases ended_of_read read with ⟨_, _, whole⟩ | ⟨broken, _, _, sooner⟩
      · cases whole
      · simp [outcome, broken, sooner, Except.map]

theorem readAll_cases (source : LimitedBody) (buffering : Buffering)
    : (∃ message,
          source.readAll buffering ByteArray.empty = .error message
          ∧ source.outcome = .error message)
      ∨ ∃ content,
          source.readAll buffering ByteArray.empty = .ok content
          ∧ source.outcome = .ok (octets content) := by
  have same := source.readAll_eq buffering ByteArray.empty
  have start (bytes : Except String (List UInt8))
      : bytes.map (octets ByteArray.empty ++ ·) = bytes := by
    cases bytes <;> rfl
  rw [start] at same
  cases read : source.readAll buffering ByteArray.empty with
  | error message => exact Or.inl ⟨message, rfl, by rw [← same, read]; rfl⟩
  | ok content => exact Or.inr ⟨content, rfl, by rw [← same, read]; rfl⟩

end LimitedBody

-----------------------------------------------------------------------------------------
-- Loading a remote program
-----------------------------------------------------------------------------------------

namespace Source

variable {fetch : Network.Url → Except RequestError Response} {source : String}
  {response : Response}

/-- What is read of a body up to one byte behind the limit is judged by its length. -/
theorem readBody_eq_judged (source : String) (body : Body)
    : (readBody source body).map octets
      = match LimitedBody.outcome { body, left := maxRemoteSize + 1 } with
        | .error message => .error (.broken message)
        | .ok bytes =>
          if maxRemoteSize < bytes.length then .error (.tooLarge source) else .ok bytes := by
  unfold readBody
  rcases LimitedBody.readAll_cases { body, left := maxRemoteSize + 1 } .doubling with
    ⟨message, read, outcome⟩ | ⟨content, read, outcome⟩
  · simp only [read, outcome]
    rfl
  · simp only [read, outcome, length_octets]
    split <;> rfl

/-- A body is a program exactly if it is not too large and does not break off. One that breaks off
is told to be too large only if too many bytes could be had before it was found to break off.
-/
theorem readBody_eq (source : String) (body : Body)
    : (readBody source body).map octets
      = match body.ending with
        | .whole =>
          if maxRemoteSize < body.bytes.length then .error (.tooLarge source) else .ok body.bytes
        | .broken message =>
          if maxRemoteSize < body.clear then .error (.tooLarge source)
          else .error (.broken message) := by
  -- the one byte behind the limit is there, so the piece that was read is too long
  have cut (large : maxRemoteSize < body.bytes.length)
      : maxRemoteSize < (body.bytes.take (maxRemoteSize + 1)).length := by
    rw [List.length_take_of_le large]
    omega
  rw [readBody_eq_judged, LimitedBody.outcome]
  cases ending : body.ending with
  | whole =>
      by_cases large : maxRemoteSize < body.bytes.length
      · simp only [cut large, large, if_true]
      · have all : body.bytes.take (maxRemoteSize + 1) = body.bytes :=
          List.take_of_length_le (by omega)
        simp only [all, large, if_false]
  | broken message =>
      by_cases large : maxRemoteSize < body.clear
      · have late : ¬body.clear < maxRemoteSize + 1 := by omega
        have more := cut (Nat.lt_of_lt_of_le large body.clear_le)
        simp only [late, more, large, if_true, if_false]
      · have soon : body.clear < maxRemoteSize + 1 := by omega
        simp only [soon, large, if_true, if_false]

/-- The address of a source is well formed, and the request for it gets a response. -/
def Answers (fetch : Network.Url → Except RequestError Response) (source : String)
    (response : Response) : Prop :=
  ∃ url, Network.Url.parse source = .ok url ∧ fetch url.withoutEmptyPort = .ok response

theorem load_of_answers (read : FileReader) (remote : isRemote source = true)
    (answers : Answers fetch source response)
    : load read fetch source
      = if response.status = 200 then readBody source response.body
        else .error (.badStatus source response.status) := by
  obtain ⟨url, parsed, found⟩ := answers
  simp only [load, remote, if_true, parsed, found, ofResponse]
  rfl

theorem answers_of_load {read : FileReader} {program : ByteArray}
    (remote : isRemote source = true) (loaded : load read fetch source = .ok program)
    : ∃ response, Answers fetch source response := by
  simp only [load, remote, if_true] at loaded
  cases parsed : Network.Url.parse source with
  | error message => simp [parsed] at loaded
  | ok url =>
      cases found : fetch url.withoutEmptyPort with
      | error cause => simp [parsed, found, ofResponse] at loaded
      | ok response => exact ⟨response, url, parsed, found⟩

/-- A body is read to a program exactly if it ends, and in time; the program is its bytes. -/
theorem readBody_eq_ok_iff {body : Body} {program : ByteArray}
    : readBody source body = .ok program
      ↔ body.ending = .whole
        ∧ body.bytes.length ≤ maxRemoteSize
        ∧ octets program = body.bytes := by
  have same := readBody_eq source body
  constructor
  · intro read
    rw [read] at same
    cases ending : body.ending with
    | broken message =>
        simp only [ending] at same
        split at same <;> cases same
    | whole =>
        by_cases large : maxRemoteSize < body.bytes.length
        · simp [ending, large, Except.map] at same
        · simp only [ending, large, if_false] at same
          exact ⟨rfl, Nat.not_lt.mp large, Except.ok.inj same⟩
  · rintro ⟨whole, small, bytes⟩
    simp only [whole, Nat.not_lt.mpr small, if_false] at same
    cases read : readBody source body with
    | error cause => simp [read, Except.map] at same
    | ok other =>
        -- the bytes determine the array that holds them
        rw [read] at same
        have equal : octets other = octets program := (Except.ok.inj same).trans bytes.symm
        exact congrArg Except.ok (ByteArray.ext (Array.toList_inj.mp equal))

theorem readBody_of_error {body : Body} {cause : SourceError}
    (same : (readBody source body).map octets = .error cause)
    : readBody source body = .error cause := by
  cases read : readBody source body with
  | error other =>
      rw [read] at same
      exact congrArg Except.error (Except.error.inj same)
  | ok program => simp [read, Except.map] at same

/-- A body that breaks off in time is no program, and what breaks it off is told. -/
theorem readBody_of_broken {body : Body} {message : String} (broken : body.ending = .broken message)
    (soon : body.clear ≤ maxRemoteSize)
    : readBody source body = .error (.broken message) := by
  apply readBody_of_error
  rw [readBody_eq, broken]
  exact if_neg (Nat.not_lt.mpr soon)

/-- A body of which too many bytes can be had is told to be too large. -/
theorem readBody_of_large {body : Body} (large : maxRemoteSize < body.bytes.length)
    (clear : ∀ message, body.ending = .broken message → maxRemoteSize < body.clear)
    : readBody source body = .error (.tooLarge source) := by
  apply readBody_of_error
  rw [readBody_eq]
  cases ending : body.ending with
  | whole => exact if_pos large
  | broken message => exact if_pos (clear message ending)

theorem maxRemoteSize_eq : maxRemoteSize = 64 * 1024 * 1024 := by decide

theorem message_tooLarge (source : String)
    : (SourceError.tooLarge source).message
      = "fetch program: " ++ source ++ ": larger than 67108864 bytes" := by
  have limit : toString maxRemoteSize = "67108864" := by decide
  have text : ": larger than 67108864 bytes" = ": larger than " ++ "67108864" ++ " bytes" := by
    decide
  show "fetch program: " ++ source ++ ": larger than " ++ toString maxRemoteSize ++ " bytes" = _
  rw [limit, text]
  simp only [String.append_assoc]

/-- A remote source gives a program exactly if the response to the request for it holds one. -/
theorem load_eq_ok_iff (read : FileReader) (remote : isRemote source = true) {program : ByteArray}
    : load read fetch source = .ok program
      ↔ ∃ response,
          Answers fetch source response
          ∧ response.status = 200
          ∧ readBody source response.body = .ok program := by
  constructor
  · intro loaded
    obtain ⟨response, answers⟩ := answers_of_load remote loaded
    rw [load_of_answers read remote answers] at loaded
    split at loaded
    · rename_i fine
      exact ⟨response, answers, fine, loaded⟩
    · cases loaded
  · rintro ⟨response, answers, fine, body⟩
    rw [load_of_answers read remote answers, if_pos fine, body]

/-- What comes of loading a remote source, by the response to the request for it. -/
structure FetchLaws (read : FileReader) (fetch : Network.Url → Except RequestError Response)
    (source : String) : Prop where
  /-- There is a program exactly if the response is in order, its bytes end, and there are at most
  64 MiB of them; the program is all of them.
  -/
  loaded_iff
    : ∀ program,
        load read fetch source = .ok program
        ↔ ∃ response,
            Answers fetch source response
            ∧ response.status = 200
            ∧ response.body.ending = .whole
            ∧ response.body.bytes.length ≤ 64 * 1024 * 1024
            ∧ octets program = response.body.bytes
  /-- More bytes are too many, whatever ends them, unless the first one that is too many comes
  together with what breaks them off.
  -/
  tooLarge
    : ∀ response,
        Answers fetch source response
        → response.status = 200
        → 64 * 1024 * 1024 < response.body.bytes.length
        → (response.body.bytes.length = 64 * 1024 * 1024 + 1
            → ∀ message, ¬response.body.BreaksWithBytes message)
        → load read fetch source = .error (.tooLarge source)
  /-- In that case it is told what breaks them off. -/
  brokenBehind
    : ∀ response message,
        Answers fetch source response
        → response.status = 200
        → response.body.bytes.length = 64 * 1024 * 1024 + 1
        → response.body.BreaksWithBytes message
        → load read fetch source = .error (.broken message)
  /-- Bytes that break off before there are more, or right behind that many, are no program. -/
  broken
    : ∀ response message,
        Answers fetch source response
        → response.status = 200
        → response.body.bytes.length ≤ 64 * 1024 * 1024
        → response.body.ending = .broken message
        → load read fetch source = .error (.broken message)
  /-- A response that is not in order is not read. -/
  badStatus
    : ∀ response,
        Answers fetch source response
        → response.status ≠ 200
        → load read fetch source = .error (.badStatus source response.status)
  /-- The text about too many bytes says how many there may be. -/
  told
    : (SourceError.tooLarge source).message
      = "fetch program: " ++ source ++ ": larger than 67108864 bytes"

/-- A fetched program is never cut short: for every remote source, every status and every body, in
whatever chunks its bytes arrive, whether they end or break off, and whether that is found together
with the last of them or by itself.
-/
theorem load_remote (read : FileReader) (fetch : Network.Url → Except RequestError Response)
    {source : String} (remote : isRemote source = true)
    : FetchLaws read fetch source where
  loaded_iff program := by
    simp only [load_eq_ok_iff read remote, readBody_eq_ok_iff, maxRemoteSize_eq]
  tooLarge response answers fine large apart := by
    rw [load_of_answers read remote answers, if_pos fine]
    rw [← maxRemoteSize_eq] at large apart
    apply readBody_of_large large
    intro message broken
    apply Body.lt_clear large
    intro one
    exact Decidable.of_not_not fun together => apart one message ⟨broken, together⟩
  brokenBehind response message answers fine one breaks := by
    rw [load_of_answers read remote answers, if_pos fine]
    apply readBody_of_broken breaks.broken
    rw [← maxRemoteSize_eq] at one
    rw [Body.clear, if_neg breaks.bytes]
    omega
  broken response message answers fine small broken := by
    rw [load_of_answers read remote answers, if_pos fine]
    apply readBody_of_broken broken
    rw [maxRemoteSize_eq]
    exact Nat.le_trans response.body.clear_le small
  badStatus response answers wrong := by
    rw [load_of_answers read remote answers]
    exact if_neg wrong
  told := message_tooLarge source

def noFiles : FileReader := fun path => .error { action := .opening, path, cause := .missing }

/-- Every request gets the same response. -/
def answering (response : Response) : Network.Url → Except RequestError Response :=
  fun _ => .ok response

theorem isRemote_address : isRemote "http://h/p" = true := by cbv

theorem answers_answering (response : Response)
    : Answers (answering response) "http://h/p" response := by
  have parsed : (Network.Url.parse "http://h/p").isOk = true := by cbv
  cases found : Network.Url.parse "http://h/p" with
  | error message => simp [found, Except.isOk, Except.toBool] at parsed
  | ok url => exact ⟨url, found, rfl⟩

/-- A response in three reads: the second gives no bytes, and the third finds the end as well. -/
def chunkedAnswer : Response :=
  { status := 200, body := { chunks := [⟨#[43]⟩, ⟨#[]⟩], last := ⟨#[46, 43]⟩ } }

theorem load_remote_chunked
    : isRemote "http://h/p" = true
      ∧ FetchLaws noFiles (answering chunkedAnswer) "http://h/p"
      ∧ load noFiles (answering chunkedAnswer) "http://h/p" = .ok ⟨#[43, 46, 43]⟩ := by
  have laws := load_remote noFiles (answering chunkedAnswer) isRemote_address
  refine ⟨isRemote_address, laws, (laws.loaded_iff _).mpr ?_⟩
  exact ⟨_, answers_answering chunkedAnswer, rfl, rfl, by decide, rfl⟩

/-- A response whose body comes in one read, together with its end: one byte more than there may be.
-/
def oversized (status : Int) (ending : BodyEnd) : Response :=
  { status, body := { last := ⟨Array.replicate (maxRemoteSize + 1) 43⟩, ending } }

theorem length_oversized (status : Int) (ending : BodyEnd)
    : (oversized status ending).body.bytes.length = maxRemoteSize + 1 := by
  simp only [oversized, Body.bytes, octets, List.flatMap_nil, List.nil_append,
    Array.toList_replicate, List.length_replicate]

theorem size_last_oversized (status : Int) (ending : BodyEnd)
    : (oversized status ending).body.last.size ≠ 0 := by
  have all := length_oversized status ending
  simp only [oversized, Body.bytes, List.flatMap_nil, List.nil_append, length_octets] at all ⊢
  omega

/-- A body that is too large is not always told to be. A response that is not in order is not read;
and what comes with the first byte that is too many is told before the bytes are counted.
-/
theorem oversized_not_told
    : Answers (answering (oversized 404 .whole)) "http://h/p" (oversized 404 .whole)
      ∧ 64 * 1024 * 1024 < (oversized 404 .whole).body.bytes.length
      ∧ load noFiles (answering (oversized 404 .whole)) "http://h/p"
        = .error (.badStatus "http://h/p" 404)
      ∧ Answers (answering (oversized 200 (.broken "bad read"))) "http://h/p"
          (oversized 200 (.broken "bad read"))
      ∧ 64 * 1024 * 1024 < (oversized 200 (.broken "bad read")).body.bytes.length
      ∧ load noFiles (answering (oversized 200 (.broken "bad read"))) "http://h/p"
        = .error (.broken "bad read") := by
  have large (status : Int) (ending : BodyEnd)
      : 64 * 1024 * 1024 < (oversized status ending).body.bytes.length := by
    rw [length_oversized, maxRemoteSize_eq]
    omega
  refine ⟨answers_answering _, large _ _, ?_, answers_answering _, large _ _, ?_⟩
  · have wrong : (404 : Int) ≠ 200 := by decide
    rw [load_of_answers noFiles isRemote_address (answers_answering _)]
    exact if_neg wrong
  · have soon : (oversized 200 (.broken "bad read")).body.clear ≤ maxRemoteSize := by
      have all := length_oversized 200 (.broken "bad read")
      rw [Body.clear, if_neg (size_last_oversized 200 _)]
      omega
    rw [load_of_answers noFiles isRemote_address (answers_answering _)]
    exact (if_pos rfl).trans (readBody_of_broken rfl soon)

end Source

end TapeMachine
