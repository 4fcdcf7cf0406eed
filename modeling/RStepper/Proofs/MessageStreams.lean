import Mathlib.Data.List.TakeWhile
import RStepper.Adapter.Framing
import RStepper.Proofs.ByteStreams
import RStepper.Proofs.JsonTexts
import RStepper.Proofs.WrittenNumbers

/-! Streams of messages. Whatever is sent is read back, one message after the other and up to the end of the
stream, and nothing is read of a message that is not there as a whole. -/

namespace RStepper

namespace Adapter
open Text

/-- A content that a client may send, or a forwarder: what it carries is a value in order, and not null. -/
def Content.Carries : Content → Prop
  | .request _ value | .event _ value => ∀ carried ∈ value, carried ≠ .null ∧ carried.ordered = carried
  | .response .. => False

/-- A message that can be sent: its number takes 64 bits, its values can be written and read, and its length
takes 64 bits too. -/
structure Message.Sendable (message : Message) : Prop where
  number : message.number < wordLimit
  carries : message.content.Carries
  fits : message.toJson.Fits Json.deepest
  length : byteLength message.body < wordLimit

theorem optional?_anyValue {fields : List (String × Json)} {key : String} {value : Option Json}
    (found : once? fields key = some (some (value.getD .null)))
    (carries : ∀ carried ∈ value, carried ≠ .null ∧ carried.ordered = carried) :
    optional? fields key anyValue? = some value := by
  rw [optional?, found, Option.bind_some]
  cases value with
  | none => rfl
  | some carried =>
    obtain ⟨present, ordered⟩ := carries carried rfl
    cases carried <;> first | exact absurd rfl present | (simp only [anyValue?, Option.map_some]; exact congrArg _ (congrArg _ ordered))

theorem Content.ofFields?_fields {content : Content} (carries : content.Carries) (number type : Json) :
    Content.ofFields? (("seq", number) :: ("type", type) :: content.fields) = some content := by
  cases content with
  | response => exact carries.elim
  | request command arguments =>
    let fields := ("seq", number) :: ("type", type) :: (Content.request command arguments).fields
    have named : required? fields "command" Json.string? = some command := rfl
    have given : optional? fields "arguments" anyValue? = some arguments := optional?_anyValue rfl carries
    change (requestOf? fields).or _ = _
    rw [requestOf?, named, given]
    rfl
  | event name body =>
    let fields := ("seq", number) :: ("type", type) :: (Content.event name body).fields
    have noRequest : requestOf? fields = none := rfl
    have noResponse : responseOf? fields = none := rfl
    have named : required? fields "event" Json.string? = some name := rfl
    have given : optional? fields "body" anyValue? = some body := optional?_anyValue rfl carries
    change (requestOf? fields).or ((responseOf? fields).or (eventOf? fields)) = _
    rw [noRequest, noResponse, eventOf?, named, given]
    rfl

theorem Message.ofJson?_toJson {message : Message} (number : message.number < wordLimit)
    (carries : message.content.Carries) : Message.ofJson? message.toJson = some message := by
  obtain ⟨count, type, content⟩ := message
  let fields := ("seq", Json.int count) :: ("type", Json.str type) :: content.fields
  have found : once? fields "seq" = some (some (.int count)) ∧ once? fields "type" = some (some (.str type)) := by
    cases content <;> exact ⟨rfl, rfl⟩
  have numbered : required? fields "seq" Json.counter? = some count := by
    rw [required?, found.1, Option.bind_some, Option.bind_some, Json.counter?,
      if_pos ⟨Int.natCast_nonneg _, Int.ofNat_lt.mpr number⟩, Int.toNat_natCast]
  have typed : required? fields "type" Json.string? = some type := by
    rw [required?, found.2]
    rfl
  change (do return ⟨← required? fields "seq" Json.counter?, ← required? fields "type" Json.string?,
    ← Content.ofFields? fields⟩ : Option Message) = _
  rw [numbered, typed, Content.ofFields?_fields carries]
  rfl

theorem Message.Sendable.ofBody {message : Message} (sendable : message.Sendable) :
    Incoming.ofBody (Utf8.encode message.body) = .message message := by
  rw [Incoming.ofBody, Utf8.decode?_encode, Option.bind_some, body, Json.read_write sendable.fits, Option.bind_some,
    Message.ofJson?_toJson sendable.number sendable.carries]

/-! The header. -/

/-- A line of a header that is about something else than the length of the body. -/
structure HeaderLine where
  text : List Char
  unbroken : '\n' ∉ text
  shown : text.all isBlank = false
  other : startsWith lengthMark text = false

def lineEnd : List Char := "\r\n".toList

def HeaderLine.bytes (line : HeaderLine) : List UInt8 :=
  Utf8.encode (line.text ++ lineEnd)

def Message.lengthLine (message : Message) : List Char :=
  lengthMark.toList ++ ' ' :: Nat.toDigits 10 (byteLength message.body)

/-- A message as it is sent, with more lines in its header. -/
structure Framed where
  message : Message
  before : List HeaderLine
  behind : List HeaderLine

def Framed.header (framed : Framed) : List UInt8 :=
  framed.before.flatMap HeaderLine.bytes ++ Utf8.encode (framed.message.lengthLine ++ lineEnd) ++
    framed.behind.flatMap HeaderLine.bytes ++ Utf8.encode lineEnd

def Framed.bytes (framed : Framed) : List UInt8 :=
  framed.header ++ Utf8.encode framed.message.body

theorem readHeader_line (known : Option Nat) {line : List Char} (unbroken : '\n' ∉ line) (rest : List UInt8) :
    readHeader known (Utf8.encode (line ++ lineEnd) ++ rest) =
      if trimEnd line = [] ∧ known.isSome then (.ok known, rest)
      else readHeader ((lengthIn? (trimEnd line)).getD known) rest := by
  have whole : line ++ lineEnd = (line ++ ['\r']) ++ ['\n'] := by simp [lineEnd]
  have inside : '\n' ∉ line ++ ['\r'] := by simpa using unbroken
  have cut := splitByteLine_encode inside rest
  have some : Utf8.encode (line ++ lineEnd) ++ rest ≠ [] := by
    rw [Utf8.encode_append]
    simp [lineEnd, Utf8.encode, Utf8.encodeChar]
  have trimmed : trimEnd (line ++ lineEnd) = trimEnd line := trimEnd_append_blanks (by simp [lineEnd, isBlank]) line
  rw [← whole] at cut
  rw [readHeader, dif_neg some, cut]
  simp only [readByteLine_encode, trimmed]

theorem readHeader_other (known : Option Nat) (line : HeaderLine) (rest : List UInt8) :
    readHeader known (line.bytes ++ rest) = readHeader known rest := by
  obtain ⟨blanks, whole, blank⟩ := trimEnd_append line.text
  have solid : trimEnd line.text ≠ [] := by
    intro empty
    rw [empty, List.nil_append] at whole
    have all : line.text.all isBlank = true := by
      rw [← whole]
      exact List.all_eq_true.mpr blank
    rw [line.shown] at all
    cases all
  have silent : lengthIn? (trimEnd line.text) = none := by
    rw [lengthIn?, Option.map_eq_none_iff]
    apply Option.eq_none_iff_forall_ne_some.mpr
    intro value found
    have begins : lengthMark.toList ++ value = trimEnd line.text := List.isPrefixOf?_eq_some_iff_append_eq.mp found
    have starts : startsWith lengthMark line.text = true :=
      List.isPrefixOf_iff_prefix.mpr ⟨value ++ blanks, by rw [← List.append_assoc, begins, whole]⟩
    rw [line.other] at starts
    cases starts
  rw [HeaderLine.bytes, readHeader_line known line.unbroken, if_neg fun ends => solid ends.1, silent]
  rfl

theorem readHeader_others (known : Option Nat) (lines : List HeaderLine) (rest : List UInt8) :
    readHeader known (lines.flatMap HeaderLine.bytes ++ rest) = readHeader known rest := by
  induction lines with
  | nil => rfl
  | cons line lines ih => rw [List.flatMap_cons, List.append_assoc, readHeader_other, ih]

theorem readHeader_lengthLine (known : Option Nat) {message : Message} (small : byteLength message.body < wordLimit)
    (rest : List UInt8) : readHeader known (Utf8.encode (message.lengthLine ++ lineEnd) ++ rest) =
      readHeader (some (byteLength message.body)) rest := by
  unfold Message.lengthLine
  generalize byteLength message.body = count at small ⊢
  have digit : ∀ c ∈ Nat.toDigits 10 count, c.isDigit = true :=
    fun c member => Nat.isDigit_of_mem_toDigits (by decide) (by decide) member
  have unbroken : '\n' ∉ lengthMark.toList ++ ' ' :: Nat.toDigits 10 count := by
    intro member
    rcases List.mem_append.mp member with mark | number
    · revert mark
      decide
    · rcases List.mem_cons.mp number with blank | inside
      · revert blank
        decide
      · have isDigit := digit _ inside
        cases isDigit
  obtain ⟨init, last, ends⟩ : ∃ init last, Nat.toDigits 10 count = init ++ [last] :=
    ⟨_, _, (List.dropLast_append_getLast Nat.toDigits_ne_nil).symm⟩
  have solid : isBlank last = false := isBlank_of_isDigit (digit last (by simp [ends]))
  have trimmed : trimEnd (lengthMark.toList ++ ' ' :: Nat.toDigits 10 count) =
      lengthMark.toList ++ ' ' :: Nat.toDigits 10 count := by
    rw [ends, ← List.cons_append, ← List.append_assoc]
    exact trimEnd_concat _ solid
  have number : trim (' ' :: Nat.toDigits 10 count) = Nat.toDigits 10 count := by
    have start : trimStart (Nat.toDigits 10 count) = Nat.toDigits 10 count := by
      cases digits : Nat.toDigits 10 count with
      | nil => rfl
      | cons c more =>
        have first : c.isDigit = true := digit c (by simp [digits])
        exact trimStart_of_not_isBlank (isBlank_of_isDigit first)
    have skipped : trimStart ([' '] ++ Nat.toDigits 10 count) = trimStart (Nat.toDigits 10 count) :=
      trimStart_append (by simp [isBlank]) _
    rw [List.singleton_append] at skipped
    rw [trim, skipped, start, ends]
    exact trimEnd_concat _ solid
  have told : lengthIn? (lengthMark.toList ++ ' ' :: Nat.toDigits 10 count) = some (some count) := by
    rw [lengthIn?, stripStart, List.isPrefixOf?_eq_some_iff_append_eq.mpr rfl, Option.map_some, number,
      readCount?_toDigits small]
  rw [readHeader_line known unbroken, trimmed, told, if_neg]
  · rfl
  · rintro ⟨empty, _⟩
    cases empty

theorem readHeader_header {framed : Framed} (small : byteLength framed.message.body < wordLimit) (rest : List UInt8) :
    readHeader none (framed.header ++ rest) = (.ok (some (Utf8.encode framed.message.body).length), rest) := by
  rw [Framed.header, List.append_assoc, List.append_assoc, List.append_assoc, readHeader_others,
    readHeader_lengthLine none small, readHeader_others, Utf8.length_encode]
  exact (readHeader_line _ List.not_mem_nil rest).trans (if_pos ⟨rfl, rfl⟩)

theorem readMessage_bytes {framed : Framed} (sendable : framed.message.Sendable) (rest : List UInt8) :
    readMessage (framed.bytes ++ rest) = (.message framed.message, rest) := by
  rw [readMessage, Framed.bytes, List.append_assoc, readHeader_header sendable.length]
  dsimp only
  rw [if_neg (by simp), List.take_left, List.drop_left, sendable.ofBody]

/-! What more bytes change. -/

theorem readHeader_append {known : Option Nat} {bytes : List UInt8} {length : Nat}
    (found : (readHeader known bytes).1 = .ok (some length)) (behind : (readHeader known bytes).2 ≠ []) (more : List UInt8) :
    readHeader known (bytes ++ more) = (.ok (some length), (readHeader known bytes).2 ++ more) := by
  fun_induction readHeader known bytes with
  | case1 => cases found
  | case2 => cases found
  | case3 known bytes filled rest text read line ends =>
    have same : known = some length := by simpa using found
    have cut := splitByteLine_append_of_ne_nil behind more
    rw [readHeader, dif_neg (by simp [filled]), cut]
    simp only [read]
    rw [if_pos ends, same]
  | case4 known bytes filled rest text read line goesOn ih =>
    have cut : splitByteLine (bytes ++ more) = ((splitByteLine bytes).1, (splitByteLine bytes).2 ++ more) := by
      apply splitByteLine_append_of_ne_nil
      intro empty
      have none : rest = [] := empty
      rw [none, readHeader, dif_pos rfl] at found
      cases found
    rw [readHeader, dif_neg (by simp [filled]), cut]
    simp only [read]
    rw [if_neg goesOn]
    exact ih found behind

theorem ofBody_nil : Incoming.ofBody [] = .fault .notMessage := rfl

theorem readMessage_append {bytes : List UInt8} {message : Message} (read : (readMessage bytes).1 = .message message)
    (more : List UInt8) : readMessage (bytes ++ more) = (.message message, (readMessage bytes).2 ++ more) := by
  unfold readMessage at read ⊢
  rcases header : readHeader none bytes with ⟨_ | _ | length, rest⟩ <;> rw [header] at read
  · cases read
  · cases read
  dsimp only at read ⊢
  split at read
  · cases read
  next whole =>
  have behind : rest ≠ [] := by
    rintro rfl
    rw [List.take_nil, ofBody_nil] at read
    cases read
  have found := readHeader_append (congrArg Prod.fst header) (by rw [header]; exact behind) more
  have body : Incoming.ofBody (rest.take length) = .message message := read
  rw [header] at found
  rw [found]
  dsimp only
  rw [if_neg (by rw [List.length_append]; omega), if_neg whole, List.take_append_of_le_length (by omega),
    List.drop_append_of_le_length (by omega), body]

/-- All messages at the front of a stream, and what comes behind the last of them. -/
def readMessages (bytes : List UInt8) : List Message × Incoming :=
  match _read : (readMessage bytes).1 with
  | .message message =>
    let later := readMessages (readMessage bytes).2
    (message :: later.1, later.2)
  | ending => ([], ending)
termination_by bytes.length
decreasing_by exact length_readMessage_lt _read

theorem readMessages_flatMap {stream : List Framed} (sendable : ∀ framed ∈ stream, framed.message.Sendable) :
    readMessages (stream.flatMap Framed.bytes) = (stream.map Framed.message, .none) := by
  induction stream with
  | nil =>
    have ended : (readMessage []).1 = .none := by
      rw [readMessage, readHeader, dif_pos rfl]
    rw [List.flatMap_nil, readMessages]
    split
    next message read => cases ended.symm.trans read
    next other => rw [ended]; rfl
  | cons framed stream ih =>
    have read := readMessage_bytes (sendable framed List.mem_cons_self) (stream.flatMap Framed.bytes)
    have later := ih fun framed member => sendable framed (List.mem_cons_of_mem _ member)
    rw [List.flatMap_cons, readMessages]
    split
    next message found =>
      rw [read] at found ⊢
      cases found
      rw [later]
      rfl
    next other =>
      rw [read] at other
      exact absurd rfl (other framed.message)

theorem readMessage_cut {framed : Framed} (sendable : framed.message.Sendable) {cut : List UInt8}
    (front : cut <+: framed.bytes) (proper : cut ≠ framed.bytes) (message : Message) :
    (readMessage cut).1 ≠ .message message := by
  intro read
  obtain ⟨rest, whole⟩ := front
  have known := readMessage_bytes sendable []
  rw [List.append_nil, ← whole, readMessage_append read] at known
  have empty : rest = [] := (List.append_eq_nil_iff.mp (congrArg Prod.snd known)).2
  rw [empty, List.append_nil] at whole
  exact proper whole

theorem Framed.bytes_plain {framed : Framed} (before : framed.before = []) (behind : framed.behind = []) :
    framed.bytes = Utf8.encode framed.message.frame := by
  have frame : framed.message.frame = framed.message.lengthLine ++ lineEnd ++ lineEnd ++ framed.message.body := by
    rw [Message.frame, Message.lengthLine, Nat.toString_eq_repr, Nat.toList_repr]
    simp [lineEnd]
  rw [bytes, header, before, behind, frame]
  simp [Utf8.encode_append]

/-- A stream of messages that can be sent is read back message by message, and then it is at its end, whatever
other lines their headers hold. Each header gives the length of the body in bytes, and a message that was cut
short is never taken for a message. -/
theorem messages_read_back {stream : List Framed} (sendable : ∀ framed ∈ stream, framed.message.Sendable) :
    readMessages (stream.flatMap Framed.bytes) = (stream.map Framed.message, .none) ∧
      ∀ framed ∈ stream,
        (framed.before = [] → framed.behind = [] → framed.bytes = Utf8.encode framed.message.frame) ∧
        readHeader none framed.bytes =
          (.ok (some (Utf8.encode framed.message.body).length), Utf8.encode framed.message.body) ∧
        ∀ cut, cut <+: framed.bytes → cut ≠ framed.bytes → ∀ message, (readMessage cut).1 ≠ .message message := by
  refine ⟨readMessages_flatMap sendable, ?_⟩
  intro framed member
  have sends := sendable framed member
  refine ⟨fun before behind => Framed.bytes_plain before behind, ?_, ?_⟩
  · exact readHeader_header sends.length _
  · intro cut front proper message
    exact readMessage_cut sends front proper message

/-- A request with nested arguments, in a header with two more lines. -/
def askingLocals : Framed where
  message := ⟨7, "request", .request "variables" (some (.obj [("filter", .arr [.int (-3), .str "é\n"]), ("start", .null)]))⟩
  before := [⟨"Content-Type: text/ö".toList, by decide, by decide, by decide⟩]
  behind := [⟨" Content-Length: 3".toList, by decide, by decide, by decide⟩]

/-- An event that calls itself a request. -/
def disguised : Framed where
  message := ⟨18446744073709551615, "request", .event "stopped" none⟩
  before := []
  behind := []

theorem stream_read_back :
    (∀ framed ∈ [askingLocals, disguised], framed.message.Sendable) ∧
      readMessages ([askingLocals, disguised].flatMap Framed.bytes) =
        ([askingLocals.message, disguised.message], .none) := by
  have nested : askingLocals.message.Sendable := by
    refine ⟨by decide, ?_, ?_, by decide +kernel⟩
    · rintro carried ⟨⟩
      exact ⟨nofun, rfl⟩
    · have filter : Json.Fits 125 (.arr [.int (-3), .str "é\n"]) :=
        .arr (by simpa [Json.Fits.str] using .int (by decide) (by decide))
      have arguments : Json.Fits 126 (.obj [("filter", .arr [.int (-3), .str "é\n"]), ("start", .null)]) :=
        .obj (by simp [filter, Json.Fits.null])
      refine .obj ?_
      simpa [askingLocals, Content.fields, arguments, Json.Fits.str] using .int (by decide) (by decide)
  have plain : disguised.message.Sendable := by
    refine ⟨by decide, nofun, .obj ?_, by decide +kernel⟩
    simpa [disguised, Content.fields, Json.Fits.str, Json.Fits.null] using .int (by decide) (by decide)
  have sendable : ∀ framed ∈ [askingLocals, disguised], framed.message.Sendable := by
    simp [nested, plain]
  exact ⟨sendable, (messages_read_back sendable).1⟩

end Adapter
end RStepper
