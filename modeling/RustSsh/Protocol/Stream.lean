/-
# Protocol.Stream -- messages through a stream of frames

Whole calls of `read_frame` and `write_frame`.  The stream delivers its bytes in pieces; a
call of `read_frame` takes the bytes of one frame and no other, at every fragmentation
(`readFrame_frame`), so repeated calls read back what repeated calls wrote (`readFrames_written`).
`FrameReader` is one call cut at its polls: polled to its end it returns the same
(`FrameReader.Polls.readFrame`).

`serde_json` prints and parses JSON values; what a message is as a value is this crate's.
-/
import RustSsh.Theory.Pieces
import RustSsh.Protocol.Serde

namespace RustSsh.Protocol

open RustSsh.Theory

set_option autoImplicit false

/-! ## The calls -/

/-- `write_frame` behind the bytes `out`. -/
def writeFrameTo (codec : Codec) (out : Bytes) (m : Message) : Except String Unit × Bytes :=
  match writeFrame codec m with
  | none => (.error "control frame is too large", out)
  | some bytes => (.ok (), out ++ bytes)

/-- One call for each message, up to the first that fails. -/
def writeFrames (codec : Codec) (out : Bytes) : List Message → Except String Unit × Bytes
  | [] => (.ok (), out)
  | m :: rest =>
      match writeFrameTo codec out m with
      | (.ok (), out) => writeFrames codec out rest
      | (.error error, out) => (.error error, out)

/-- `serde_json::from_slice` on a payload. -/
def decodeFrame (codec : Codec) (payload : Bytes) : Except String Message :=
  match codec.decode payload with
  | none => .error "decoding control frame"
  | some m => .ok m

/-- `read_frame`, with the pieces that are left in the stream. -/
def readFrame (codec : Codec) (pieces : List Bytes) : Except String Message × List Bytes :=
  match readExact 4 pieces with
  | none => (.error "reading control frame length", [])
  | some (length, rest) =>
      if ofBigEndian length = 0 ∨ maxFrameSize < ofBigEndian length then
        (.error s!"invalid control frame length: {ofBigEndian length}", rest)
      else
        match readExact (ofBigEndian length) rest with
        | none => (.error "reading control frame payload", [])
        | some (payload, rest) => (decodeFrame codec payload, rest)

/-- The messages of `count` calls. -/
def readFrames (codec : Codec) : Nat → List Bytes → Except String (List Message) × List Bytes
  | 0, pieces => (.ok [], pieces)
  | count + 1, pieces =>
      match readFrame codec pieces with
      | (.error error, rest) => (.error error, rest)
      | (.ok m, rest) =>
          match readFrames codec count rest with
          | (.error error, rest) => (.error error, rest)
          | (.ok ms, rest) => (.ok (m :: ms), rest)

section Calls

variable {codec : Codec}

theorem writeFrame_ok {m : Message} {bytes : Bytes} (written : writeFrame codec m = some bytes) :
    bytes = frame (codec.encode m) ∧ codec.encode m ≠ [] ∧
      (codec.encode m).length ≤ maxFrameSize := by
  obtain ⟨shape, fits⟩ := writeFrame_some written
  refine ⟨shape, ?_, fits⟩
  intro empty
  simp [writeFrame, empty] at written

/-- The output of calls that all succeed. -/
theorem writeFrames_cons {m : Message} {rest : List Message} {out all : Bytes}
    (written : writeFrames codec out (m :: rest) = (.ok (), all)) :
    ∃ bytes, writeFrame codec m = some bytes ∧
      writeFrames codec (out ++ bytes) rest = (.ok (), all) := by
  rw [writeFrames, writeFrameTo] at written
  cases first : writeFrame codec m with
  | none => simp [first] at written
  | some bytes =>
      simp only [first] at written
      exact ⟨bytes, rfl, written⟩

/-- What a call writes does not depend on what was written before. -/
theorem writeFrames_shift {ms : List Message} {out all : Bytes}
    (written : writeFrames codec out ms = (.ok (), all)) :
    ∃ later, all = out ++ later ∧ writeFrames codec [] ms = (.ok (), later) := by
  suffices moved : ∃ later, all = out ++ later ∧
      ∀ start, writeFrames codec start ms = (.ok (), start ++ later) by
    obtain ⟨later, shape, again⟩ := moved
    exact ⟨later, shape, again []⟩
  induction ms generalizing out with
  | nil =>
      cases written
      exact ⟨[], by simp, fun start => by simp [writeFrames]⟩
  | cons m rest ih =>
      obtain ⟨bytes, first, written⟩ := writeFrames_cons written
      obtain ⟨later, rfl, again⟩ := ih written
      refine ⟨bytes ++ later, by rw [List.append_assoc], fun start => ?_⟩
      rw [writeFrames, writeFrameTo, first]
      simp only
      rw [again, List.append_assoc]

/-- `read_frame` reads the frame in front and stops behind it. -/
theorem readFrame_frame {payload more : Bytes} {pieces : List Bytes} (solid : payload ≠ [])
    (small : payload.length ≤ maxFrameSize) (stream : pieces.flatten = frame payload ++ more) :
    ∃ left, readFrame codec pieces = (decodeFrame codec payload, left) ∧ left.flatten = more := by
  rw [frame, List.append_assoc] at stream
  obtain ⟨behind, header, after⟩ := readExact_append stream
  obtain ⟨left, body, last⟩ := readExact_append after
  rw [length_bigEndian] at header
  have announced := ofBigEndian_bigEndian 4 payload.length (fits_of_size small)
  have size : payload.length ≠ 0 := fun zero => solid (List.length_eq_zero_iff.mp zero)
  have good : ¬ (payload.length = 0 ∨ maxFrameSize < payload.length) := by omega
  refine ⟨left, ?_, last⟩
  simp only [readFrame, header, announced, good, if_false, body]

/-- **Calls of `read_frame` read back what calls of `write_frame` wrote**, one frame each. -/
theorem readFrames_written (reads : ∀ m, codec.decode (codec.encode m) = some m)
    {ms : List Message} {out more : Bytes} (written : writeFrames codec [] ms = (.ok (), out)) {pieces : List Bytes}
    (stream : pieces.flatten = out ++ more) {count : Nat} (within : count ≤ ms.length) :
    ∃ left rest, readFrames codec count pieces = (.ok (ms.take count), left) ∧
      writeFrames codec [] (ms.drop count) = (.ok (), rest) ∧ left.flatten = rest ++ more := by
  induction count generalizing ms out pieces with
  | zero => exact ⟨pieces, out, rfl, written, stream⟩
  | succ count ih =>
      cases ms with
      | nil => simp at within
      | cons m others =>
          obtain ⟨bytes, first, written⟩ := writeFrames_cons written
          obtain ⟨later, rfl, others'⟩ := writeFrames_shift written
          obtain ⟨rfl, solid, small⟩ := writeFrame_ok first
          rw [List.nil_append, List.append_assoc] at stream
          obtain ⟨behind, read, after⟩ := @readFrame_frame codec _ _ _ solid small stream
          have decoded : decodeFrame codec (codec.encode m) = .ok m := by
            simp only [decodeFrame, reads]
          obtain ⟨left, rest, ms', tail, end'⟩ := ih others' after (Nat.le_of_succ_le_succ within)
          refine ⟨left, rest, ?_, tail, end'⟩
          simp only [readFrames, read, decoded, ms', List.take_succ_cons]

end Calls

/-! ## A call cut at its polls -/

namespace FrameReader

/-- The polls of one call, to the end of the frame.  A poll takes what it has room for from
the piece in front; an empty piece is a poll that is not ready. -/
inductive Polls : FrameReader → List Bytes → FrameProgress → List Bytes → Prop where
  | pending {f : FrameReader} {rest left : List Bytes} {ended : FrameProgress}
      (later : Polls f rest ended left) : Polls f ([] :: rest) ended left
  | more {f f' : FrameReader} {piece : Bytes} {rest left : List Bytes} {ended : FrameProgress}
      (fed : f.feed (piece.take f.wants) = .more f')
      (later : Polls f' (piece.drop f.wants :: rest) ended left) : Polls f (piece :: rest) ended left
  | done {f : FrameReader} {piece payload : Bytes} {rest : List Bytes}
      (fed : f.feed (piece.take f.wants) = .done payload) :
      Polls f (piece :: rest) (.done payload) (piece.drop f.wants :: rest)
  | invalid {f : FrameReader} {piece : Bytes} {length : Nat} {rest : List Bytes}
      (fed : f.feed (piece.take f.wants) = .invalid length) :
      Polls f (piece :: rest) (.invalid length) (piece.drop f.wants :: rest)

/-- What is left to do of the call: the rest of the length, or of the payload. -/
def resume (f : FrameReader) (pieces : List Bytes) : Option (FrameProgress × List Bytes) :=
  if f.length.length < 4 then
    (readExact (4 - f.length.length) pieces).bind fun (more, rest) =>
      let length := f.length ++ more
      if ofBigEndian length = 0 ∨ maxFrameSize < ofBigEndian length then
        some (.invalid (ofBigEndian length), rest)
      else (readExact (ofBigEndian length) rest).map fun (payload, rest) => (.done payload, rest)
  else
    (readExact (ofBigEndian f.length - f.payload.length) pieces).map fun (more, rest) =>
      (.done (f.payload ++ more), rest)

/-! While the length is read, and while the payload is. -/

theorem wants_length {f : FrameReader} (begun : f.length.length < 4) :
    f.wants = 4 - f.length.length := if_pos begun

theorem wants_payload {f : FrameReader} (begun : ¬ f.length.length < 4) :
    f.wants = ofBigEndian f.length - f.payload.length := if_neg begun

theorem feed_length {f : FrameReader} (begun : f.length.length < 4) (bytes : Bytes) :
    f.feed bytes =
      if (f.length ++ bytes).length < 4 then .more { f with length := f.length ++ bytes }
      else if ofBigEndian (f.length ++ bytes) = 0 ∨
          maxFrameSize < ofBigEndian (f.length ++ bytes) then
        .invalid (ofBigEndian (f.length ++ bytes))
      else .more { length := f.length ++ bytes, payload := [] } :=
  if_pos begun

theorem feed_payload {f : FrameReader} (begun : ¬ f.length.length < 4) (bytes : Bytes) :
    f.feed bytes =
      if (f.payload ++ bytes).length < ofBigEndian f.length then
        .more { f with payload := f.payload ++ bytes }
      else .done (f.payload ++ bytes) :=
  if_neg begun

theorem resume_start (pieces : List Bytes) :
    start.resume pieces = (readExact 4 pieces).bind fun read =>
      if ofBigEndian read.1 = 0 ∨ maxFrameSize < ofBigEndian read.1 then
        some (.invalid (ofBigEndian read.1), read.2)
      else (readExact (ofBigEndian read.1) read.2).map fun body => (.done body.1, body.2) :=
  rfl

theorem resume_pending {f : FrameReader} (formed : f.WellFormed) (rest : List Bytes) :
    f.resume ([] :: rest) = f.resume rest := by
  have wanted := wants_pos formed
  by_cases begun : f.length.length < 4
  · rw [wants_length begun] at wanted
    rw [resume, resume, if_pos begun, if_pos begun, readExact_empty wanted]
  · rw [wants_payload begun] at wanted
    rw [resume, resume, if_neg begun, if_neg begun, readExact_empty wanted]

/-- A poll is a part of the work of the call. -/
theorem resume_more {f f' : FrameReader} {piece : Bytes} (formed : f.WellFormed)
    (fed : f.feed (piece.take f.wants) = .more f') (rest : List Bytes) :
    f.resume (piece :: rest) = f'.resume (piece.drop f.wants :: rest) := by
  by_cases begun : f.length.length < 4
  · have none := formed.fresh begun
    rw [wants_length begun] at fed ⊢
    rw [feed_length begun] at fed
    rw [resume, if_pos begun, readExact_front]
    split at fed
    · rename_i part
      cases fed
      have rests : 4 - f.length.length - (piece.take (4 - f.length.length)).length =
          4 - (f.length ++ piece.take (4 - f.length.length)).length := by
        rw [List.length_append]
        omega
      simp only [resume, part, if_true, rests, Option.bind_map]
      congr 1
      funext later
      simp only [Function.comp_apply, List.append_assoc]
    · rename_i whole
      split at fed
      · cases fed
      · rename_i good
        cases fed
        have full : 4 - f.length.length - (piece.take (4 - f.length.length)).length = 0 := by
          rw [List.length_append] at whole
          omega
        rw [full, readExact_piece (Nat.zero_le _), resume, if_neg whole]
        simp only [Option.map_some, Option.bind_some, List.take_zero, List.append_nil,
          List.drop_zero, good, if_false, List.length_nil, Nat.sub_zero, List.nil_append]
  · rw [wants_payload begun] at fed ⊢
    rw [feed_payload begun] at fed
    split at fed
    · cases fed
      have rests : ofBigEndian f.length - f.payload.length -
          (piece.take (ofBigEndian f.length - f.payload.length)).length =
          ofBigEndian f.length -
            (f.payload ++ piece.take (ofBigEndian f.length - f.payload.length)).length := by
        rw [List.length_append]
        omega
      rw [resume, if_neg begun, readExact_front, rests]
      simp only [resume, begun, if_false, Option.map_map]
      congr 1
      funext later
      simp only [Function.comp_apply, List.append_assoc]
    · cases fed

theorem resume_done {f : FrameReader} {piece payload : Bytes}
    (fed : f.feed (piece.take f.wants) = .done payload) (rest : List Bytes) :
    f.resume (piece :: rest) = some (.done payload, piece.drop f.wants :: rest) := by
  by_cases begun : f.length.length < 4
  · rw [feed_length begun] at fed
    split at fed
    · cases fed
    · split at fed <;> cases fed
  · rw [wants_payload begun] at fed ⊢
    rw [feed_payload begun] at fed
    split at fed
    · cases fed
    · rename_i whole
      cases fed
      have inside : ofBigEndian f.length - f.payload.length ≤ piece.length := by
        rw [List.length_append, List.length_take] at whole
        omega
      rw [resume, if_neg begun, readExact_piece inside]
      rfl

theorem resume_invalid {f : FrameReader} {piece : Bytes} {length : Nat}
    (fed : f.feed (piece.take f.wants) = .invalid length) (rest : List Bytes) :
    f.resume (piece :: rest) = some (.invalid length, piece.drop f.wants :: rest) := by
  by_cases begun : f.length.length < 4
  · rw [wants_length begun] at fed ⊢
    rw [feed_length begun] at fed
    split at fed
    · cases fed
    · rename_i whole
      split at fed
      · rename_i bad
        cases fed
        have inside : 4 - f.length.length ≤ piece.length := by
          rw [List.length_append, List.length_take] at whole
          omega
        rw [resume, if_pos begun, readExact_piece inside]
        simp [bad]
      · cases fed
  · rw [feed_payload begun] at fed
    split at fed <;> cases fed

theorem Polls.resume {f : FrameReader} {pieces left : List Bytes} {ended : FrameProgress}
    (polls : Polls f pieces ended left) (formed : f.WellFormed) :
    f.resume pieces = some (ended, left) := by
  induction polls with
  | pending later ih => rw [resume_pending formed, ih formed]
  | more fed later ih =>
      rw [resume_more formed fed]
      exact ih (feed_more formed (List.length_take_le ..) fed).1
  | done fed => exact resume_done fed _
  | invalid fed => exact resume_invalid fed _

/-- **Cut at its polls in any way, a call returns what the whole call does.** -/
theorem Polls.readFrame {pieces left : List Bytes} {ended : FrameProgress}
    (polls : Polls start pieces ended left) (codec : Codec) :
    (∀ payload, ended = .done payload →
      readFrame codec pieces = (decodeFrame codec payload, left)) ∧
    ∀ length, ended = .invalid length →
      readFrame codec pieces = (.error s!"invalid control frame length: {length}", left) := by
  have whole := polls.resume wellFormed_start
  rw [resume_start] at whole
  unfold Protocol.readFrame
  cases header : readExact 4 pieces with
  | none => simp [header] at whole
  | some read =>
      obtain ⟨length, rest⟩ := read
      simp only [header, Option.bind_some] at whole
      by_cases bad : ofBigEndian length = 0 ∨ maxFrameSize < ofBigEndian length
      · rw [if_pos bad] at whole
        cases whole
        simp [bad]
      · rw [if_neg bad] at whole
        cases body : readExact (ofBigEndian length) rest with
        | none => simp [body] at whole
        | some read =>
            simp only [body, Option.map_some, Option.some.injEq, Prod.mk.injEq] at whole
            obtain ⟨rfl, rfl⟩ := whole
            simp [bad, body]

end FrameReader

/-! ## Features that were left out -/

namespace Message

/-- The capabilities of a `Hello` or a `HelloOk`. -/
def features : Message → List String
  | .hello _ _ _ _ features => features
  | .helloOk features => features
  | _ => []

theorem features_ite {tag name : String} {here other : Option Message} {m : Message}
    (read : (if tag = name then here else other) = some m)
    (first : here = some m → m.features = []) (later : other = some m → m.features = []) :
    m.features = [] := by
  by_cases this : tag = name
  · exact first ((if_pos this).symm.trans read)
  · exact later ((if_neg this).symm.trans read)

theorem features_some {variant m : Message} (plain : variant.features = [])
    (read : some variant = some m) : m.features = [] := by
  cases read
  exact plain

theorem features_map {A : Type} {field : Option A} {variant : A → Message}
    (plain : ∀ a, (variant a).features = []) {m : Message} (read : field.map variant = some m) :
    m.features = [] := by
  obtain ⟨a, -, rfl⟩ := Option.map_eq_some_iff.mp read
  exact plain a

theorem features_bind {first second : Option String} {variant : String → String → Message}
    (plain : ∀ a b, (variant a b).features = []) {m : Message}
    (read : (do let a ← first; let b ← second; return variant a b) = some m) : m.features = [] := by
  obtain ⟨a, -, read⟩ := Option.bind_eq_some_iff.mp read
  obtain ⟨b, -, read⟩ := Option.bind_eq_some_iff.mp read
  cases read
  exact plain a b

/-- An object without `features` is a message without features. -/
theorem features_absent {fields : List (Text × Json)} {m : Message}
    (absent : Json.field fields "features" = some none)
    (read : fromJson (.object fields) = some m) : m.features = [] := by
  obtain ⟨tag, -, read⟩ := Option.bind_eq_some_iff.mp read
  have default : featuresField fields = some [] := by rw [featuresField, absent]
  unfold ofTag at read
  refine features_ite read (fun read => ?_) fun read => ?_
  · obtain ⟨version, -, read⟩ := Option.bind_eq_some_iff.mp read
    obtain ⟨role, -, read⟩ := Option.bind_eq_some_iff.mp read
    obtain ⟨token, -, read⟩ := Option.bind_eq_some_iff.mp read
    obtain ⟨deviceId, -, read⟩ := Option.bind_eq_some_iff.mp read
    obtain ⟨features, found, read⟩ := Option.bind_eq_some_iff.mp read
    cases read
    exact Option.some.inj (found.symm.trans default)
  refine features_ite read (fun read => ?_) fun read => ?_
  · rw [default] at read
    cases read
    rfl
  -- no other variant has features
  refine features_ite read (features_map fun _ => rfl) fun read => ?_
  refine features_ite read (features_map fun _ => rfl) fun read => ?_
  refine features_ite read (features_some rfl) fun read => ?_
  refine features_ite read (features_map fun _ => rfl) fun read => ?_
  refine features_ite read (features_bind fun _ _ => rfl) fun read => ?_
  refine features_ite read (features_map fun _ => rfl) fun read => ?_
  refine features_ite read (features_map fun _ => rfl) fun read => ?_
  refine features_ite read (features_bind fun _ _ => rfl) fun read => ?_
  refine features_ite read (features_some rfl) fun read => ?_
  refine features_ite read (features_some rfl) fun read => ?_
  cases read

end Message

/-! ## The control-frame codec -/

/-- `serde_json` on values. -/
structure JsonText where
  print : Json → Bytes
  parse : Bytes → Option Json

/-- A value that was printed is parsed. -/
def JsonText.Documented (text : JsonText) : Prop :=
  ∀ value, text.parse (text.print value) = some value

/-- `to_vec` and `from_slice` at the type of a message. -/
def JsonText.codec (text : JsonText) : Codec where
  encode m := text.print m.toJson
  decode bytes := (text.parse bytes).bind Message.fromJson

theorem JsonText.codec_reads {text : JsonText} (documented : text.Documented) (m : Message) :
    text.codec.decode (text.codec.encode m) = some m := by
  simp only [JsonText.codec, documented m.toJson, Option.bind_some, Message.fromJson_toJson]

/-- A message too large is refused before the stream is touched. -/
theorem writeFrameTo_large {codec : Codec} {m : Message}
    (large : maxFrameSize < (codec.encode m).length) (out : Bytes) :
    writeFrameTo codec out m = (.error "control frame is too large", out) := by
  have refused : writeFrame codec m = none := if_pos (.inr large)
  rw [writeFrameTo, refused]

/-- **The control-frame codec loses nothing**: neither a message nor a byte. -/
theorem control_codec {text : JsonText} (documented : text.Documented) :
    (∀ (ms : List Message) (out : Bytes), writeFrames text.codec [] ms = (.ok (), out) →
      ∀ (more : Bytes) (pieces : List Bytes), pieces.flatten = out ++ more →
        ∀ count ≤ ms.length, ∃ left rest,
          readFrames text.codec count pieces = (.ok (ms.take count), left) ∧
          writeFrames text.codec [] (ms.drop count) = (.ok (), rest) ∧
          left.flatten = rest ++ more) ∧
    (∀ (m : Message) (out : Bytes), maxFrameSize < (text.codec.encode m).length →
      writeFrameTo text.codec out m = (.error "control frame is too large", out)) ∧
    (∀ m, Message.fromJson m.toJson = some m) ∧
    (∀ version role token deviceId, Message.toJson (.hello version role token deviceId []) =
      Message.tagged "hello"
        [("version".toList, .number version.toNat), ("role".toList, role.toJson),
          ("token".toList, .string token.toList),
          ("device_id".toList, Message.deviceField deviceId)]) ∧
    Message.toJson (.helloOk []) = Message.tagged "hello_ok" [] ∧
    ∀ (fields : List (Text × Json)) (m : Message), Json.field fields "features" = some none →
      Message.fromJson (.object fields) = some m → m.features = [] := by
  refine ⟨?_, ?_, Message.fromJson_toJson, ?_, rfl, ?_⟩
  · intro ms out written more pieces stream count within
    exact readFrames_written (JsonText.codec_reads documented) written stream within
  · intro m out large
    exact writeFrameTo_large large out
  · intro version role token deviceId
    rfl
  · intro fields m absent read
    exact Message.features_absent absent read

/-- Compact JSON. -/
def compactJson : JsonText where
  print value := Text.encode value.render
  parse bytes := (Text.decode bytes).bind Json.parse

theorem compactJson_documented : compactJson.Documented := by
  intro value
  simp only [compactJson, Text.decode_encode, Option.bind_some, Json.parse_render]

/-- Two frames and a byte of a third, cut inside the first length. -/
theorem control_codec_pieces : ∃ out left rest,
    writeFrames compactJson.codec [] [.ping, .helloOk [heartbeatFeature]] = (.ok (), out) ∧
      readFrames compactJson.codec 2 [out.take 3, [], out.drop 3 ++ [9]] =
        (.ok [.ping, .helloOk [heartbeatFeature]], left) ∧
      writeFrames compactJson.codec [] [] = (.ok (), rest) ∧ left.flatten = rest ++ [9] := by
  have written : (writeFrames compactJson.codec [] [.ping, .helloOk [heartbeatFeature]]).1 =
      .ok () := by
    decide +kernel
  cases run : writeFrames compactJson.codec [] [.ping, .helloOk [heartbeatFeature]] with
  | mk result out =>
      rw [run] at written
      obtain rfl : result = .ok () := written
      have cut : [out.take 3, [], out.drop 3 ++ [9]].flatten = out ++ [9] := by
        simp [← List.append_assoc]
      obtain ⟨left, rest, read, after, stops⟩ :=
        (control_codec compactJson_documented).1 _ out run [9] _ cut 2 (Nat.le_refl 2)
      exact ⟨out, left, rest, rfl, read, after, stops⟩

end RustSsh.Protocol
