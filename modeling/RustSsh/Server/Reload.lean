/-
# Server.Reload -- tokens are reloaded while they change

`spawn_auth_reload` of `src/server.rs`: every two seconds the relay reads the directory of device
tokens, file by file, and takes over what it read if all of it is good.  Meanwhile other processes
are in `add_device`, whose `write_token` writes under the final name, and files are removed.

`reload_accepts`: whatever is read when, a device is let in with the token that it had at the start,
or with at least 32 bytes that are the front of a token written for it.  `reload_converges`: once a
reload that began after the last change to a device's file has succeeded, the device is let in with
the token in the file and with no other, whatever happens to other devices' files meanwhile.
-/
import RustSsh.Server.TokenDirectory
import RustSsh.Theory.Encoding
import RustSsh.Theory.Run

namespace RustSsh.Server

open RustSsh.Theory RustSsh.Protocol

set_option autoImplicit false

/-! ## The source -/

/-- What the two `write_all` of `write_token` write. -/
def writtenText (token : String) : Bytes := utf8 (trimmed token) ++ [10]

/-- A call of `write_token` that has created its file, and whether the name still leads to it. -/
structure TokenWrite where
  deviceId : String
  token : String
  /-- the bytes written so far -/
  written : Nat
  linked : Bool
  deriving DecidableEq, Repr

namespace TokenWrite

def name (w : TokenWrite) : Bytes := tokenFileName w.deviceId

def content (w : TokenWrite) : Bytes := (writtenText w.token).take w.written

end TokenWrite

/-- `load_auth_snapshot` on its way: the controller's file, the names that `read_dir` has still to
yield, and the entries as they were when each was read, the oldest first. -/
structure Scan where
  controller : Option Bytes
  listed : List Bytes
  seen : List DirEntry

/-- The directory, the calls that write to it, and the relay with its reloads that succeeded. -/
structure Reloading where
  files : HashMap Bytes Node
  writes : List TokenWrite
  scan : Option Scan
  auth : AuthSnapshot
  reloads : Nat

inductive ReloadAct where
  /-- `create_new` in `write_token` -/
  | create (deviceId token : String)
  /-- a `write` of this call, of so many bytes -/
  | write (i size : Nat)
  | remove (name : Bytes)
  /-- a tick; `controller` is the controller's file -/
  | tick (controller : Option Bytes)
  /-- the next entry is read -/
  | visit (name : Bytes)
  /-- a file that was removed is not listed after all -/
  | miss (name : Bytes)
  /-- the directory, or the type of an entry, cannot be read -/
  | fail
  /-- the loop is over -/
  | finish
  deriving DecidableEq, Repr

/-- What `generate_token` returns. -/
def GeneratedToken (token : String) : Prop :=
  token.length = 64 ∧ ∀ c ∈ token.toList, c ∈ "0123456789abcdef".toList

instance (token : String) : Decidable (GeneratedToken token) :=
  decidable_of_iff (token.length = 64 ∧
      token.toList.all (fun c => "0123456789abcdef".toList.contains c) = true)
    (by simp only [GeneratedToken, List.all_eq_true, List.contains_iff_mem])

section

variable (controllerPath directory : String)

def Reloading.step (s : Reloading) : ReloadAct → Option Reloading
  | .create deviceId token =>
      if DeviceId.isGenerated deviceId = true ∧ GeneratedToken token ∧
          s.files.lookup (tokenFileName deviceId) = none then
        some { s with
          files := s.files.insert (tokenFileName deviceId) (.file [])
          writes := s.writes ++ [⟨deviceId, token, 0, true⟩] }
      else none
  | .write i size =>
      match s.writes[i]? with
      | none => none
      | some w =>
          let w' := { w with written := w.written + size }
          some { s with
            files := if w.linked then s.files.insert w.name (.file w'.content) else s.files
            writes := s.writes.set i w' }
  | .remove name =>
      some { s with
        files := s.files.erase name
        writes := s.writes.map fun w => if w.name = name then { w with linked := false } else w }
  | .tick controller =>
      if s.scan.isNone then some { s with scan := some ⟨controller, s.files.keys, []⟩ } else none
  | .visit name =>
      match s.scan with
      | none => none
      | some scan =>
          if name ∈ scan.seen.map DirEntry.name then none
          else
            match s.files.lookup name with
            | some node =>
                some { s with
                  scan := some { scan with
                    listed := scan.listed.erase name, seen := scan.seen ++ [⟨name, node⟩] } }
            | none =>
                -- removed after it was listed
                if name ∈ scan.listed then
                  some { s with
                    scan := some { scan with
                      listed := scan.listed.erase name
                      seen := scan.seen ++ [⟨name, .unreadable⟩] } }
                else none
  | .miss name =>
      match s.scan with
      | none => none
      | some scan =>
          if s.files.lookup name = none then
            some { s with scan := some { scan with listed := scan.listed.erase name } }
          else none
  | .fail => if s.scan.isSome then some { s with scan := none } else none
  | .finish =>
      match s.scan with
      | none => none
      | some scan =>
          if scan.listed = [] then
            match loadAuthSnapshot controllerPath scan.controller directory (some scan.seen) with
            | .ok next =>
                -- the source leaves a snapshot that is equal to this one as it is
                some { s with scan := none, reloads := s.reloads + 1, auth := next }
            | .error _ => some { s with scan := none }
          else none

end

/-- The token in a device's file. -/
def nodeToken (directory : String) (entry : DirEntry) : Option String :=
  match readEntry directory entry with
  | .ok (some record) => some record.token
  | _ => none

def fileToken (directory : String) (files : HashMap Bytes Node) (deviceId : String) : Option String :=
  (files.lookup (tokenFileName deviceId)).bind fun node =>
    nodeToken directory ⟨tokenFileName deviceId, node⟩

theorem tokenFileName_inj {d e : String} : tokenFileName d = tokenFileName e ↔ d = e := by
  constructor
  · intro same
    have texts := congrArg Text.decode same
    rw [tokenFileName, tokenFileName, Text.decode_encode, Text.decode_encode, Option.some_inj,
      List.append_left_inj] at texts
    exact String.toList_inj.mp texts
  · rintro rfl
    rfl

/-! ## What a scan loads -/

/-- A good scan gives each device the token of its entry. -/
theorem scan_lookup {controllerPath directory : String} {scan : Scan} {auth : AuthSnapshot}
    (distinct : (scan.seen.map DirEntry.name).Nodup)
    (loaded : loadAuthSnapshot controllerPath scan.controller directory (some scan.seen) = .ok auth)
    (deviceId token : String) :
    auth.deviceTokens.lookup deviceId = some token ↔
      ∃ entry ∈ scan.seen, entry.name = tokenFileName deviceId ∧
        nodeToken directory entry = some token := by
  obtain ⟨-, tokens⟩ := loadAuthSnapshot_ok.mp loaded
  have lookup := @loadDeviceTokens_lookup directory ⟨scan.seen, distinct⟩ scan.seen (List.Perm.refl _)
    _ tokens deviceId token
  rw [lookup]
  constructor
  · rintro ⟨entry, member, path, read⟩
    exact ⟨entry, member, readEntry_name read, by rw [nodeToken, read]⟩
  · rintro ⟨entry, member, named, read⟩
    unfold nodeToken at read
    split at read
    · rename_i record found
      obtain rfl := Option.some.inj read
      have same : record.deviceId = deviceId :=
        tokenFileName_inj.mp ((readEntry_name found).symm.trans named)
      subst same
      exact ⟨entry, member, record.path, found⟩
    · cases read

/-! ## What a step can be -/

/-- A step, with the state it leads to. -/
inductive Reloading.Rule (controllerPath directory : String) (s : Reloading) :
    ReloadAct → Reloading → Prop
  | create {deviceId token : String} (generated : DeviceId.isGenerated deviceId = true)
      (good : GeneratedToken token) (free : s.files.lookup (tokenFileName deviceId) = none) :
      Rule controllerPath directory s (.create deviceId token)
        { s with files := s.files.insert (tokenFileName deviceId) (.file [])
                 writes := s.writes ++ [⟨deviceId, token, 0, true⟩] }
  | write {i : Nat} (size : Nat) {w : TokenWrite} (here : s.writes[i]? = some w)
      (linked : w.linked = true) :
      Rule controllerPath directory s (.write i size)
        { s with files := s.files.insert w.name (.file ((writtenText w.token).take (w.written + size)))
                 writes := s.writes.set i { w with written := w.written + size } }
  | lost {i : Nat} (size : Nat) {w : TokenWrite} (here : s.writes[i]? = some w)
      (unlinked : w.linked = false) :
      Rule controllerPath directory s (.write i size)
        { s with writes := s.writes.set i { w with written := w.written + size } }
  | remove (name : Bytes) :
      Rule controllerPath directory s (.remove name)
        { s with files := s.files.erase name
                 writes := s.writes.map fun w =>
                   if w.name = name then { w with linked := false } else w }
  | tick (controller : Option Bytes) (idle : s.scan = none) :
      Rule controllerPath directory s (.tick controller)
        { s with scan := some ⟨controller, s.files.keys, []⟩ }
  | visit {name : Bytes} {scan : Scan} {node : Node} (scanning : s.scan = some scan)
      (unseen : name ∉ scan.seen.map DirEntry.name) (there : s.files.lookup name = some node) :
      Rule controllerPath directory s (.visit name)
        { s with scan := some { scan with
            listed := scan.listed.erase name, seen := scan.seen ++ [⟨name, node⟩] } }
  | gone {name : Bytes} {scan : Scan} (scanning : s.scan = some scan)
      (unseen : name ∉ scan.seen.map DirEntry.name) (absent : s.files.lookup name = none)
      (listed : name ∈ scan.listed) :
      Rule controllerPath directory s (.visit name)
        { s with scan := some { scan with
            listed := scan.listed.erase name, seen := scan.seen ++ [⟨name, .unreadable⟩] } }
  | miss {name : Bytes} {scan : Scan} (scanning : s.scan = some scan)
      (absent : s.files.lookup name = none) :
      Rule controllerPath directory s (.miss name)
        { s with scan := some { scan with listed := scan.listed.erase name } }
  | failed (scanning : s.scan.isSome = true) :
      Rule controllerPath directory s .fail { s with scan := none }
  | loaded {scan : Scan} {next : AuthSnapshot} (scanning : s.scan = some scan)
      (done : scan.listed = [])
      (good : loadAuthSnapshot controllerPath scan.controller directory (some scan.seen) = .ok next) :
      Rule controllerPath directory s .finish
        { s with scan := none, reloads := s.reloads + 1, auth := next }
  | kept {scan : Scan} {error : String} (scanning : s.scan = some scan) (done : scan.listed = [])
      (bad : loadAuthSnapshot controllerPath scan.controller directory (some scan.seen) =
        .error error) :
      Rule controllerPath directory s .finish { s with scan := none }

section

variable {controllerPath directory : String} {s s' : Reloading} {act : ReloadAct}

theorem Reloading.rule (taken : Reloading.step controllerPath directory s act = some s') :
    Reloading.Rule controllerPath directory s act s' := by
  cases act with
  | create deviceId token =>
      rw [step, Option.ite_none_right_eq_some, Option.some.injEq] at taken
      obtain ⟨⟨generated, good, free⟩, rfl⟩ := taken
      exact .create generated good free
  | write i size =>
      cases here : s.writes[i]? with
      | none => simp [step, here] at taken
      | some w =>
          by_cases linked : w.linked = true
          · simp only [step, here, if_pos linked, Option.some.injEq] at taken
            subst taken
            exact .write size here linked
          · simp only [step, here, if_neg linked, Option.some.injEq] at taken
            subst taken
            exact .lost size here (by simpa using linked)
  | remove name =>
      cases taken
      exact .remove name
  | tick controller =>
      rw [step, Option.ite_none_right_eq_some, Option.isNone_iff_eq_none, Option.some.injEq]
        at taken
      obtain ⟨idle, rfl⟩ := taken
      exact .tick controller idle
  | visit name =>
      cases scanning : s.scan with
      | none => simp [step, scanning] at taken
      | some scan =>
          simp only [step, scanning, Option.ite_none_left_eq_some] at taken
          obtain ⟨unseen, taken⟩ := taken
          cases found : s.files.lookup name with
          | some node =>
              simp only [found, Option.some.injEq] at taken
              subst taken
              exact .visit scanning unseen found
          | none =>
              simp only [found, Option.ite_none_right_eq_some, Option.some.injEq] at taken
              obtain ⟨listed, rfl⟩ := taken
              exact .gone scanning unseen found listed
  | miss name =>
      cases scanning : s.scan with
      | none => simp [step, scanning] at taken
      | some scan =>
          simp only [step, scanning, Option.ite_none_right_eq_some, Option.some.injEq] at taken
          obtain ⟨absent, rfl⟩ := taken
          exact .miss scanning absent
  | fail =>
      rw [step, Option.ite_none_right_eq_some, Option.some.injEq] at taken
      obtain ⟨scanning, rfl⟩ := taken
      exact .failed scanning
  | finish =>
      cases scanning : s.scan with
      | none => simp [step, scanning] at taken
      | some scan =>
          simp only [step, scanning, Option.ite_none_right_eq_some] at taken
          obtain ⟨done, taken⟩ := taken
          cases result : loadAuthSnapshot controllerPath scan.controller directory
              (some scan.seen) with
          | error error =>
              simp only [result, Option.some.injEq] at taken
              subst taken
              exact .kept scanning done result
          | ok next =>
              simp only [result, Option.some.injEq] at taken
              subst taken
              exact .loaded scanning done result

end

/-! ## What a file can hold -/

theorem GeneratedToken.allowed {token : String} (good : GeneratedToken token) :
    ∀ c ∈ token.toList, DeviceId.allowedChar c = true := by
  have digits : "0123456789abcdef".toList.all DeviceId.allowedChar = true := by decide
  intro c inside
  exact List.all_eq_true.mp digits c (good.2 c inside)

theorem nodeToken_some {directory : String} {entry : DirEntry} {token : String}
    (read : nodeToken directory entry = some token) :
    ∃ text, entry.text = some text ∧ TokenText text ∧ token = trimmed text := by
  unfold nodeToken at read
  split at read
  · rename_i record found
    obtain ⟨stem, text, -, -, content, good, rfl⟩ := readEntry_record.mp found
    exact ⟨text, content, good, (Option.some.inj read).symm⟩
  · cases read

theorem GeneratedToken.ascii {token : String} (good : GeneratedToken token) :
    ∀ c ∈ token.toList, c.toNat ≤ 127 := by
  intro c inside
  have range := DeviceId.allowedChar_iff.mp (good.allowed c inside)
  omega

theorem GeneratedToken.solid {token : String} (good : GeneratedToken token) :
    ∀ c ∈ token.toList, Text.isWhitespace c = false :=
  fun c inside => DeviceId.allowedChar_not_whitespace (good.allowed c inside)

theorem writtenText_encode {whole : String} (good : GeneratedToken whole) :
    writtenText whole = Text.encode (whole.toList ++ ['\n']) := by
  have plain : trimmed whole = whole := by
    rw [trimmed, Text.trim_of_solid good.solid, String.ofList_toList]
  rw [writtenText, plain, Text.encode_append, ← String.ofList_toList (s := whole), utf8_ofList,
    String.toList_ofList]
  rfl

theorem writtenText_front {whole : String} (good : GeneratedToken whole) (k : Nat) :
    (writtenText whole).take k = Text.encode ((whole.toList ++ ['\n']).take k) := by
  rw [writtenText_encode good, Text.encode_take]
  intro c inside
  rcases List.mem_append.mp inside with inside | last
  · exact good.ascii c inside
  · rw [List.mem_singleton.mp last]
    decide

/-- Trimming takes the newline off and nothing else. -/
theorem trimmed_front {whole : String} (good : GeneratedToken whole) (k : Nat) :
    trimmed (String.ofList ((whole.toList ++ ['\n']).take k)) =
      String.ofList (whole.toList.take k) := by
  have newline : ∀ c ∈ ['\n'].take (k - whole.toList.length), Text.isWhitespace c = true := by
    intro c inside
    rw [List.mem_singleton.mp (List.mem_of_mem_take inside)]
    decide
  rw [trimmed, String.toList_ofList, List.take_append, Text.trim_spaces newline,
    Text.trim_of_solid fun c inside => good.solid c (List.mem_of_mem_take inside)]

/-- What a call has written so far is the front of its token. -/
theorem nodeToken_written {directory : String} {name : Bytes} {whole token : String} {k : Nat}
    (good : GeneratedToken whole)
    (read : nodeToken directory ⟨name, .file ((writtenText whole).take k)⟩ = some token) :
    token.toList <+: whole.toList ∧ minTokenBytes ≤ (utf8 token).length := by
  obtain ⟨text, content, long, rfl⟩ := nodeToken_some read
  refine ⟨?_, long.1⟩
  have front : text = String.ofList ((whole.toList ++ ['\n']).take k) := by
    rw [writtenText_front good] at content
    simp only [DirEntry.text, Node.regular, Option.join_some, Option.bind_some, readString,
      Text.decode_encode, Option.map_some, Option.some.injEq] at content
    exact content.symm
  rw [front, trimmed_front good, String.toList_ofList]
  exact List.take_prefix _ _

/-- A call that has written everything has registered the device. -/
theorem fileToken_whole (directory : String) {files : HashMap Bytes Node} {deviceId whole : String}
    (generated : DeviceId.isGenerated deviceId = true) (good : GeneratedToken whole)
    (there : files.lookup (tokenFileName deviceId) = some (.file (writtenText whole))) :
    fileToken directory files deviceId = some whole := by
  have read : readString (writtenText whole) = some (String.ofList (whole.toList ++ ['\n'])) := by
    rw [writtenText_encode good, readString, Text.decode_encode, Option.map_some]
  have trimmed_whole : trimmed (String.ofList (whole.toList ++ ['\n'])) = whole := by
    have trim := trimmed_front good (whole.toList ++ ['\n']).length
    rwa [List.take_length, List.take_of_length_le (by simp), String.ofList_toList] at trim
  have length : (utf8 whole).length = 64 := by
    have bytes : utf8 whole = Text.encode whole.toList := by
      rw [← String.ofList_toList (s := whole), utf8_ofList, String.toList_ofList]
      rfl
    rw [bytes, Text.encode_ascii good.ascii, List.length_map, String.length_toList, good.1]
  have accepted (label : String) :
      validateToken (String.ofList (whole.toList ++ ['\n'])) label = .ok whole := by
    simp only [validateToken, trimmed_whole, length]
    rfl
  obtain ⟨path, found⟩ := @readEntry_token directory _ _ _ _
    (DeviceId.isValid_of_isGenerated generated) read accepted
  rw [fileToken, there, Option.bind_some, nodeToken, found]

/-! ## What is let in -/

/-- The ids and the tokens that `write_token` was called with. -/
def Reloading.requests (s : Reloading) : List (String × String) :=
  s.writes.map fun w => (w.deviceId, w.token)

/-- Where a node comes from: the directory at the start, a file that went away while it was read,
or a call of `write_token`. -/
inductive Source (files : HashMap Bytes Node) (requests : List (String × String)) (name : Bytes) :
    Node → Prop
  | start {node : Node} (there : files.lookup name = some node) : Source files requests name node
  | gone : Source files requests name .unreadable
  | written {deviceId token : String} (asked : (deviceId, token) ∈ requests)
      (named : tokenFileName deviceId = name) (k : Nat) :
      Source files requests name (.file ((writtenText token).take k))

theorem Source.mono {files : HashMap Bytes Node} {requests later : List (String × String)}
    {name : Bytes} {node : Node} (source : Source files requests name node)
    (grown : requests ⊆ later) : Source files later name node := by
  cases source with
  | start there => exact .start there
  | gone => exact .gone
  | written asked named k => exact .written (grown asked) named k

/-- The token is one that the device had, or enough of the front of one that was made for it. -/
def Issued (directory : String) (files : HashMap Bytes Node) (requests : List (String × String))
    (deviceId token : String) : Prop :=
  fileToken directory files deviceId = some token ∨
    ∃ whole, (deviceId, whole) ∈ requests ∧ token.toList <+: whole.toList ∧
      minTokenBytes ≤ (utf8 token).length

/-- The relay has started: it has loaded the directory. -/
structure Booted (controllerPath directory : String) (s : Reloading) : Prop where
  generated : ∀ request ∈ s.requests, GeneratedToken request.2
  idle : s.scan = none
  loaded : ∃ scan : Scan, (scan.seen.map DirEntry.name).Nodup ∧
    (∀ entry, entry ∈ scan.seen ↔ s.files.lookup entry.name = some entry.node) ∧
    loadAuthSnapshot controllerPath scan.controller directory (some scan.seen) = .ok s.auth

/-- Everything that the relay has read, has in its hands or could read has a source. -/
structure Traced (directory : String) (start : HashMap Bytes Node) (s : Reloading) : Prop where
  generated : ∀ request ∈ s.requests, GeneratedToken request.2
  files : ∀ name node, s.files.lookup name = some node → Source start s.requests name node
  seen : ∀ scan, s.scan = some scan → (scan.seen.map DirEntry.name).Nodup ∧
    ∀ entry ∈ scan.seen, Source start s.requests entry.name entry.node
  tokens : ∀ deviceId token, s.auth.deviceTokens.lookup deviceId = some token →
    Issued directory start s.requests deviceId token

theorem Issued.mono {directory deviceId token : String} {files : HashMap Bytes Node}
    {requests later : List (String × String)} (issued : Issued directory files requests deviceId token)
    (grown : requests ⊆ later) : Issued directory files later deviceId token := by
  rcases issued with had | ⟨whole, asked, front⟩
  · exact .inl had
  · exact .inr ⟨whole, grown asked, front⟩

section

variable {controllerPath directory : String} {s s' : Reloading} {act : ReloadAct}

/-- Only `create_new` is a new request, of a generated token. -/
theorem Reloading.Rule.requests (rule : Reloading.Rule controllerPath directory s act s') :
    s'.requests = s.requests ∨
      ∃ deviceId token, GeneratedToken token ∧ s'.requests = s.requests ++ [(deviceId, token)] := by
  have same {i : Nat} {w : TokenWrite} (size : Nat) (here : s.writes[i]? = some w) :
      (s.writes.set i { w with written := w.written + size }).map
        (fun w => (w.deviceId, w.token)) = s.requests := by
    have kept : s.requests[i]? = some (w.deviceId, w.token) := by
      rw [Reloading.requests, List.getElem?_map, here]
      rfl
    obtain ⟨within, value⟩ := List.getElem?_eq_some_iff.mp kept
    rw [List.map_set]
    show s.requests.set i (w.deviceId, w.token) = s.requests
    rw [← value, List.set_getElem_self]
  cases rule with
  | create generated good free => exact .inr ⟨_, _, good, List.map_append⟩
  | write size here linked => exact .inl (same size here)
  | lost size here unlinked => exact .inl (same size here)
  | remove name =>
      refine .inl ?_
      simp only [Reloading.requests, List.map_map]
      apply List.map_congr_left
      intro w member
      by_cases named : w.name = name <;> simp [named]
  | tick | visit | gone | miss | failed | loaded | kept => exact .inl rfl

theorem Reloading.Rule.grown (rule : Reloading.Rule controllerPath directory s act s') :
    s.requests ⊆ s'.requests := by
  rcases rule.requests with same | ⟨deviceId, token, -, more⟩
  · rw [same]
    exact List.Subset.refl _
  · rw [more]
    exact List.subset_append_left _ _

/-- A file is changed by `write_token` only. -/
theorem Reloading.Rule.file (rule : Reloading.Rule controllerPath directory s act s') {name : Bytes}
    {node : Node} (there : s'.files.lookup name = some node) :
    s.files.lookup name = some node ∨ ∃ deviceId token k, (deviceId, token) ∈ s'.requests ∧
      tokenFileName deviceId = name ∧ node = .file ((writtenText token).take k) := by
  cases rule with
  | @create deviceId token generated good free =>
      rcases HashMap.lookup_insert_iff.mp there with ⟨rfl, rfl⟩ | ⟨-, old⟩
      · exact .inr ⟨deviceId, token, 0, by simp [Reloading.requests], rfl, rfl⟩
      · exact .inl old
  | @write i size w here linked =>
      rcases HashMap.lookup_insert_iff.mp there with ⟨rfl, rfl⟩ | ⟨-, old⟩
      · have within : i < s.writes.length := (List.getElem?_eq_some_iff.mp here).1
        refine .inr ⟨w.deviceId, w.token, _, ?_, rfl, rfl⟩
        exact List.mem_map.mpr ⟨_, List.mem_set within _, rfl⟩
      · exact .inl old
  | remove gone => exact .inl (HashMap.lookup_erase_iff.mp there).2
  | lost | tick | visit | gone | miss | failed | loaded | kept => exact .inl there

/-- What the next scan has seen is what the last had seen, and what a file holds or held. -/
theorem Reloading.Rule.seen (rule : Reloading.Rule controllerPath directory s act s') {scan' : Scan}
    (scanning : s'.scan = some scan') :
    scan'.seen = [] ∨ ∃ scan, s.scan = some scan ∧ (scan'.seen = scan.seen ∨
      ∃ entry : DirEntry, entry.name ∉ scan.seen.map DirEntry.name ∧
        scan'.seen = scan.seen ++ [entry] ∧
        (s.files.lookup entry.name = some entry.node ∨ entry.node = .unreadable)) := by
  cases rule with
  | create | write | lost | remove => exact .inr ⟨scan', scanning, .inl rfl⟩
  | tick controller idle =>
      cases scanning
      exact .inl rfl
  | visit before unseen there =>
      cases scanning
      exact .inr ⟨_, before, .inr ⟨_, unseen, rfl, .inl there⟩⟩
  | gone before unseen absent listed =>
      cases scanning
      exact .inr ⟨_, before, .inr ⟨_, unseen, rfl, .inr rfl⟩⟩
  | miss before absent =>
      cases scanning
      exact .inr ⟨_, before, .inl rfl⟩
  | failed | loaded | kept => cases scanning

/-- Tokens change at the end of a good reload only. -/
theorem Reloading.Rule.auth (rule : Reloading.Rule controllerPath directory s act s') :
    s'.auth = s.auth ∧ s'.reloads = s.reloads ∨
      ∃ scan, s.scan = some scan ∧ scan.listed = [] ∧ s'.reloads = s.reloads + 1 ∧
        s'.scan = none ∧ s'.files = s.files ∧
        loadAuthSnapshot controllerPath scan.controller directory (some scan.seen) =
          .ok s'.auth := by
  cases rule with
  | loaded scanning done good => exact .inr ⟨_, scanning, done, rfl, rfl, rfl, good⟩
  | create | write | lost | remove | tick | visit | gone | miss | failed | kept =>
      exact .inl ⟨rfl, rfl⟩

/-- What a good scan of traced entries loads was issued. -/
theorem scan_issued {files : HashMap Bytes Node} {requests : List (String × String)} {scan : Scan}
    {next : AuthSnapshot} (generated : ∀ request ∈ requests, GeneratedToken request.2)
    (distinct : (scan.seen.map DirEntry.name).Nodup)
    (sources : ∀ entry ∈ scan.seen, Source files requests entry.name entry.node)
    (good : loadAuthSnapshot controllerPath scan.controller directory (some scan.seen) = .ok next)
    {deviceId token : String} (held : next.deviceTokens.lookup deviceId = some token) :
    Issued directory files requests deviceId token := by
  obtain ⟨⟨name, node⟩, member, named, read⟩ := (scan_lookup distinct good deviceId token).mp held
  simp only at named
  subst named
  cases sources _ member with
  | start there =>
      refine .inl ?_
      rw [fileToken, there]
      exact read
  | gone =>
      obtain ⟨text, content, -⟩ := nodeToken_some read
      cases content
  | @written owner whole asked same k =>
      obtain rfl := tokenFileName_inj.mp same
      exact .inr ⟨whole, asked, nodeToken_written (generated _ asked) read⟩

theorem Traced.step {start : HashMap Bytes Node} (traced : Traced directory start s)
    (rule : Reloading.Rule controllerPath directory s act s') : Traced directory start s' where
  generated := by
    rcases rule.requests with same | ⟨deviceId, token, good, more⟩
    · rw [same]
      exact traced.generated
    · rw [more]
      intro request member
      rcases List.mem_append.mp member with old | new
      · exact traced.generated request old
      · rw [List.mem_singleton.mp new]
        exact good
  files := by
    intro name node there
    rcases rule.file there with old | ⟨deviceId, token, k, asked, rfl, rfl⟩
    · exact (traced.files name node old).mono rule.grown
    · exact .written asked rfl k
  seen := by
    intro scan' scanning
    rcases rule.seen scanning with empty | ⟨scan, before, same | ⟨entry, unseen, more, content⟩⟩
    · rw [empty]
      exact ⟨List.nodup_nil, by simp⟩
    · obtain ⟨distinct, sources⟩ := traced.seen scan before
      rw [same]
      exact ⟨distinct, fun entry member => (sources entry member).mono rule.grown⟩
    · obtain ⟨distinct, sources⟩ := traced.seen scan before
      rw [more]
      constructor
      · rw [List.map_append, List.map_singleton]
        exact List.nodup_append_comm.mp (List.nodup_cons.mpr ⟨unseen, distinct⟩)
      · intro other member
        rcases List.mem_append.mp member with old | new
        · exact (sources other old).mono rule.grown
        · rw [List.mem_singleton.mp new]
          rcases content with there | gone
          · exact (traced.files _ _ there).mono rule.grown
          · rw [gone]
            exact .gone
  tokens := by
    intro deviceId token held
    rcases rule.auth with ⟨same, -⟩ | ⟨scan, scanning, -, -, -, -, good⟩
    · rw [same] at held
      exact (traced.tokens deviceId token held).mono rule.grown
    · obtain ⟨distinct, sources⟩ := traced.seen scan scanning
      exact (scan_issued traced.generated distinct sources good held).mono rule.grown

theorem Booted.traced (booted : Booted controllerPath directory s) :
    Traced directory s.files s where
  generated := booted.generated
  files := fun name node there => .start there
  seen := by
    intro scan scanning
    rw [booted.idle] at scanning
    cases scanning
  tokens := by
    intro deviceId token held
    obtain ⟨scan, distinct, exactly, good⟩ := booted.loaded
    exact scan_issued booted.generated distinct
      (fun entry member => .start ((exactly entry).mp member)) good held

end

/-- **A device gets in with its token or a long front of it**: whatever the directory is read
like while tokens are added and removed, a token that the relay takes for a device is the one in
its file when the relay started, or the first 32 bytes or more of one that was made for it. -/
theorem reload_accepts (controllerPath directory : String) {s₀ s : Reloading} {acts : List ReloadAct}
    (booted : Booted controllerPath directory s₀)
    (run : exec (Reloading.step controllerPath directory) s₀ acts = some s) {role : Role}
    (device : role ≠ .controller) {deviceId token : String}
    (ok : authenticate role (some deviceId) token s.auth = .ok ()) :
    Issued directory s₀.files s.requests deviceId token := by
  have traced : Traced directory s₀.files s := by
    refine exec_induction (P := fun _ s => Traced directory s₀.files s) booted.traced ?_ acts s run
    intro _ s act s' _ holds taken
    exact holds.step (Reloading.rule taken)
  obtain ⟨d, same, -, held, -⟩ := (authenticate_device_ok device).mp ok
  cases same
  exact traced.tokens deviceId token held

/-- The relay starts with no device. -/
def noDevices : Reloading where
  files := ∅
  writes := []
  scan := none
  auth := ⟨"controller token of 32 characters", ∅⟩
  reloads := 0

def controllerText : Bytes := utf8 "controller token of 32 characters"

def laptopId : String := "rssh-0123456789abcdef0123456789abcdef"

def laptopToken : String := "0123456789abcdef0123456789abcdef0123456789abcdef0123456789abcdef"

/-- Forty of the token's 64 characters are in the file when it is read. -/
def readEarly : List ReloadAct :=
  [.create laptopId laptopToken, .write 0 40, .tick (some controllerText),
    .visit (tokenFileName laptopId), .finish]

/-- The device gets in with them. -/
theorem reload_accepts_early : ∃ s, exec (Reloading.step "controller.token" "devices") noDevices
      readEarly = some s ∧
    authenticate .agent (some laptopId) "0123456789abcdef0123456789abcdef01234567" s.auth = .ok () ∧
    Issued "devices" ∅ s.requests laptopId "0123456789abcdef0123456789abcdef01234567" := by
  have booted : Booted "controller.token" "devices" noDevices := by
    have none : loadDeviceTokens "devices" (some []) = .ok noDevices.auth.deviceTokens := by
      simp [loadDeviceTokens, loadDeviceTokenRecords, loadFrom, Except.map, noDevices]
    have loaded : loadAuthSnapshot "controller.token" (some controllerText) "devices" (some []) =
        .ok noDevices.auth :=
      loadAuthSnapshot_ok.mpr
        ⟨⟨noDevices.auth.controllerToken, by decide +kernel, by decide +kernel⟩, none⟩
    refine ⟨by simp [Reloading.requests, noDevices], rfl,
      ⟨some controllerText, [], []⟩, List.nodup_nil, ?_, loaded⟩
    intro entry
    simp [noDevices]
  have runs : ((exec (Reloading.step "controller.token" "devices") noDevices readEarly).map fun s =>
      authenticate .agent (some laptopId) "0123456789abcdef0123456789abcdef01234567" s.auth) =
        some (.ok ()) := by decide +kernel
  obtain ⟨s, run, ok⟩ := Option.map_eq_some_iff.mp runs
  exact ⟨s, run, ok, reload_accepts "controller.token" "devices" booted run (by decide) ok⟩

/-! ## What a reload takes over -/

/-- The file that an action changes. -/
def Reloading.changed (s : Reloading) : ReloadAct → Option Bytes
  | .create deviceId _ => some (tokenFileName deviceId)
  | .write i _ => (s.writes[i]?.filter TokenWrite.linked).map TokenWrite.name
  | .remove name => some name
  | .tick _ | .visit _ | .miss _ | .fail | .finish => none

/-- A reload that began in the run has succeeded in it: a `finish` behind a `tick` is that of a scan
which a `tick` of the run began. -/
def Reloading.Reloaded (controllerPath directory : String) (start : Reloading)
    (acts : List ReloadAct) : Prop :=
  ∃ pre controller mid post before after, acts = pre ++ .tick controller :: (mid ++ .finish :: post) ∧
    exec (Reloading.step controllerPath directory) start (pre ++ .tick controller :: mid) =
      some before ∧
    Reloading.step controllerPath directory before .finish = some after ∧
    before.reloads < after.reloads

/-- What a scan knows of a name whose node stays the same. -/
structure Scan.Fair (scan : Scan) (name : Bytes) (node : Option Node) : Prop where
  distinct : (scan.seen.map DirEntry.name).Nodup
  seen : ∀ entry ∈ scan.seen, entry.name = name → node = some entry.node
  present : node.isSome = true → name ∈ scan.listed ∨ name ∈ scan.seen.map DirEntry.name
  listed : name ∈ scan.listed → node.isSome = true

namespace Scan.Fair

variable {scan : Scan} {name : Bytes} {node : Option Node}

theorem start (controller : Option Bytes) (files : HashMap Bytes Node) (name : Bytes) :
    (⟨controller, files.keys, []⟩ : Scan).Fair name (files.lookup name) where
  distinct := List.nodup_nil
  seen := by simp
  present := by
    intro there
    exact .inl (AList.lookup_isSome.mp there)
  listed := AList.lookup_isSome.mpr

/-- One more entry; it is the name's if it has the name. -/
theorem visit (fair : scan.Fair name node) (entry : DirEntry)
    (unseen : entry.name ∉ scan.seen.map DirEntry.name)
    (same : entry.name = name → node = some entry.node) :
    ({ scan with listed := scan.listed.erase entry.name, seen := scan.seen ++ [entry] } : Scan).Fair
      name node where
  distinct := by
    rw [List.map_append, List.map_singleton]
    exact List.nodup_append_comm.mp (List.nodup_cons.mpr ⟨unseen, fair.distinct⟩)
  seen := by
    intro other member named
    rcases List.mem_append.mp member with old | new
    · exact fair.seen other old named
    · rw [List.mem_singleton.mp new] at named ⊢
      exact same named
  present := by
    intro there
    rw [List.map_append, List.mem_append]
    by_cases here : entry.name = name
    · exact .inr (.inr (by simp [here]))
    · rcases fair.present there with listed | seen
      · exact .inl ((List.mem_erase_of_ne (Ne.symm here)).mpr listed)
      · exact .inr (.inl seen)
  listed := fun member => fair.listed (List.mem_of_mem_erase member)

theorem miss (fair : scan.Fair name node) {gone : Bytes} (absent : gone = name → node = none) :
    ({ scan with listed := scan.listed.erase gone } : Scan).Fair name node where
  distinct := fair.distinct
  seen := fair.seen
  present := by
    intro there
    by_cases here : gone = name
    · rw [absent here] at there
      cases there
    · rcases fair.present there with listed | seen
      · exact .inl ((List.mem_erase_of_ne (Ne.symm here)).mpr listed)
      · exact .inr seen
  listed := fun member => fair.listed (List.mem_of_mem_erase member)

/-- At the end the name has been seen exactly if it is there, as what it is. -/
theorem done (fair : scan.Fair name node) (ended : scan.listed = []) (found : Node) :
    ⟨name, found⟩ ∈ scan.seen ↔ node = some found := by
  constructor
  · intro member
    exact fair.seen _ member rfl
  · intro there
    rcases fair.present (by rw [there]; rfl) with listed | seen
    · rw [ended] at listed
      cases listed
    · obtain ⟨entry, member, named⟩ := List.mem_map.mp seen
      have same := fair.seen entry member named
      rw [there, Option.some.injEq] at same
      rw [same, ← named]
      exact member

end Scan.Fair

section

variable {controllerPath directory : String} {s s' : Reloading} {act : ReloadAct}

theorem Reloading.Rule.untouched (rule : Reloading.Rule controllerPath directory s act s')
    {name : Bytes} (other : s.changed act ≠ some name) :
    s'.files.lookup name = s.files.lookup name := by
  cases rule with
  | create generated good free =>
      exact AList.lookup_insert_ne fun same => other (by rw [Reloading.changed, same])
  | write size here linked =>
      apply AList.lookup_insert_ne
      intro same
      apply other
      rw [Reloading.changed, here, Option.filter_some, if_pos linked, Option.map_some, same]
  | remove gone => exact AList.lookup_erase_ne fun same => other (by rw [Reloading.changed, same])
  | lost | tick | visit | gone | miss | failed | loaded | kept => rfl

/-- A scan stays fair to a file that the step leaves alone. -/
theorem Reloading.Rule.fair (rule : Reloading.Rule controllerPath directory s act s') {name : Bytes}
    (other : s.changed act ≠ some name)
    (fair : ∀ scan, s.scan = some scan → scan.Fair name (s.files.lookup name)) :
    ∀ scan, s'.scan = some scan → scan.Fair name (s'.files.lookup name) := by
  rw [rule.untouched other]
  intro scan scanning
  cases rule with
  | create | write | lost | remove => exact fair scan scanning
  | tick controller idle =>
      cases scanning
      exact Scan.Fair.start controller s.files name
  | @visit found before node was unseen there =>
      cases scanning
      refine (fair before was).visit ⟨found, node⟩ unseen ?_
      rintro rfl
      exact there
  | @gone found before was unseen absent listed =>
      cases scanning
      refine (fair before was).visit ⟨found, .unreadable⟩ unseen ?_
      rintro rfl
      -- a name that is listed stands for something
      have there := (fair before was).listed listed
      rw [absent] at there
      cases there
  | miss was absent =>
      cases scanning
      refine (fair _ was).miss ?_
      rintro rfl
      exact absent
  | failed | loaded | kept => cases scanning

/-- A good scan that was fair to a device's file gives the device its token. -/
theorem fair_lookup {scan : Scan} {next : AuthSnapshot} {files : HashMap Bytes Node}
    {deviceId : String}
    (fair : scan.Fair (tokenFileName deviceId) (files.lookup (tokenFileName deviceId)))
    (ended : scan.listed = [])
    (good : loadAuthSnapshot controllerPath scan.controller directory (some scan.seen) = .ok next)
    (token : String) :
    next.deviceTokens.lookup deviceId = some token ↔ fileToken directory files deviceId = some token := by
  rw [scan_lookup fair.distinct good, fileToken, Option.bind_eq_some_iff]
  constructor
  · rintro ⟨⟨name, node⟩, member, rfl, read⟩
    exact ⟨node, (fair.done ended node).mp member, read⟩
  · rintro ⟨node, there, read⟩
    exact ⟨_, (fair.done ended node).mpr there, rfl, read⟩

/-- The device's file is as it was.  A scan that began in the run is fair to it, and a reload that
began in the run has given the device its token. -/
structure Reloading.Settling (controllerPath directory deviceId : String) (start : Reloading)
    (acts : List ReloadAct) (s : Reloading) : Prop where
  file : s.files.lookup (tokenFileName deviceId) = start.files.lookup (tokenFileName deviceId)
  fair : ∀ controller, ReloadAct.tick controller ∈ acts → ∀ scan, s.scan = some scan →
    scan.Fair (tokenFileName deviceId) (s.files.lookup (tokenFileName deviceId))
  right : start.Reloaded controllerPath directory acts →
    ∀ token, s.auth.deviceTokens.lookup deviceId = some token ↔
      fileToken directory start.files deviceId = some token

/-- A reload succeeded in the run before its last step, or that step is its `finish`. -/
theorem Reloading.Reloaded.last {start : Reloading} {acts : List ReloadAct}
    (run : exec (Reloading.step controllerPath directory) start acts = some s)
    (taken : Reloading.step controllerPath directory s act = some s')
    (reloaded : start.Reloaded controllerPath directory (acts ++ [act])) :
    (∃ controller, ReloadAct.tick controller ∈ acts) ∧
      (start.Reloaded controllerPath directory acts ∨ s.reloads < s'.reloads) := by
  obtain ⟨pre, controller, mid, post, before, after, split, reach, finished, more⟩ := reloaded
  rcases List.eq_nil_or_concat post with rfl | ⟨post, last, rfl⟩
  · have cut : acts ++ [act] = (pre ++ .tick controller :: mid) ++ [.finish] := by simp [split]
    obtain ⟨rfl, same⟩ := List.append_inj' cut rfl
    obtain rfl : act = .finish := List.singleton_inj.mp same
    obtain rfl : s = before := Option.some.inj (run.symm.trans reach)
    obtain rfl : s' = after := Option.some.inj (taken.symm.trans finished)
    exact ⟨⟨controller, by simp⟩, .inr more⟩
  · have cut : acts ++ [act] = (pre ++ .tick controller :: (mid ++ .finish :: post)) ++ [last] := by
      simp [split]
    obtain ⟨rfl, -⟩ := List.append_inj' cut rfl
    exact ⟨⟨controller, by simp⟩,
      .inl ⟨pre, controller, mid, post, before, after, rfl, reach, finished, more⟩⟩

theorem Reloading.Settling.step {deviceId : String} {start : Reloading} {acts : List ReloadAct}
    (run : exec (Reloading.step controllerPath directory) start acts = some s)
    (settling : Reloading.Settling controllerPath directory deviceId start acts s)
    (other : s.changed act ≠ some (tokenFileName deviceId))
    (taken : Reloading.step controllerPath directory s act = some s') :
    Reloading.Settling controllerPath directory deviceId start (acts ++ [act]) s' := by
  obtain ⟨file, fair, right⟩ := settling
  have rule := Reloading.rule taken
  refine ⟨(rule.untouched other).trans file, ?_, ?_⟩
  · intro controller ticked scan scanning
    rcases List.mem_append.mp ticked with earlier | now
    · exact rule.fair other (fair controller earlier) scan scanning
    · obtain rfl := List.mem_singleton.mp now
      cases rule with
      | tick controller idle =>
          cases scanning
          exact Scan.Fair.start controller s.files _
  · intro reloaded token
    obtain ⟨⟨controller, ticked⟩, done⟩ := reloaded.last run taken
    rcases rule.auth with ⟨same, count⟩ | ⟨scan, scanning, ended, -, -, -, good⟩
    · rw [same]
      rcases done with earlier | now
      · exact right earlier token
      · omega
    · have seen := fair controller ticked scan scanning
      rw [file] at seen
      exact fair_lookup seen ended good token

/-- A token that is read is good for its device. -/
theorem fileToken_valid {files : HashMap Bytes Node} {deviceId token : String}
    (read : fileToken directory files deviceId = some token) :
    DeviceId.isValid deviceId = true ∧ validTokenLength token = true := by
  obtain ⟨node, -, read⟩ := Option.bind_eq_some_iff.mp read
  unfold nodeToken at read
  split at read
  · rename_i record found
    obtain rfl := Option.some.inj read
    obtain rfl := tokenFileName_inj.mp (readEntry_name found)
    obtain ⟨stem, text, -, valid, -, good, rfl⟩ := readEntry_record.mp found
    refine ⟨valid, ?_⟩
    rw [validTokenLength, Bool.and_eq_true, decide_eq_true_eq, decide_eq_true_eq]
    exact good
  · cases read

/-- A device that has the token of its file gets in with this token only. -/
theorem authenticate_file {files : HashMap Bytes Node} {auth : AuthSnapshot} {deviceId : String}
    (right : ∀ token, auth.deviceTokens.lookup deviceId = some token ↔
      fileToken directory files deviceId = some token)
    {role : Role} (device : role ≠ .controller) (token : String) :
    authenticate role (some deviceId) token auth = .ok () ↔
      fileToken directory files deviceId = some token := by
  rw [authenticate_device_ok device]
  constructor
  · rintro ⟨d, same, -, held, -⟩
    cases same
    exact (right token).mp held
  · intro read
    obtain ⟨valid, long⟩ := fileToken_valid read
    exact ⟨deviceId, rfl, valid, (right token).mpr read, long⟩

end

/-- **A reload that began after the last change to a device's file settles the device**: whatever
happens to the files of others and however the reads of the directory fall between, once it has
succeeded the device gets in with the token in its file and with no other; with the one made for it
if it was written whole, with none if the file is gone.  Before the first success nothing changes. -/
theorem reload_converges (controllerPath directory deviceId : String) {start s : Reloading}
    {acts : List ReloadAct}
    (run : exec (Reloading.step controllerPath directory) start acts = some s)
    (alone : Along (Reloading.step controllerPath directory)
      (fun s act => s.changed act ≠ some (tokenFileName deviceId)) start acts) :
    (start.Reloaded controllerPath directory acts → ∀ role, role ≠ .controller →
      (∀ token, authenticate role (some deviceId) token s.auth = .ok () ↔
        fileToken directory start.files deviceId = some token) ∧
      (∀ whole, DeviceId.isGenerated deviceId = true → GeneratedToken whole →
        start.files.lookup (tokenFileName deviceId) = some (.file (writtenText whole)) →
        ∀ token, authenticate role (some deviceId) token s.auth = .ok () ↔ token = whole) ∧
      (start.files.lookup (tokenFileName deviceId) = none →
        ∀ token, authenticate role (some deviceId) token s.auth ≠ .ok ())) ∧
    (s.reloads = start.reloads → s.auth = start.auth) := by
  constructor
  · intro reloaded role device
    have settled : Reloading.Settling controllerPath directory deviceId start acts s := by
      refine exec_induction (P := fun acts s => Along (Reloading.step controllerPath directory)
          (fun s act => s.changed act ≠ some (tokenFileName deviceId)) start acts →
          Reloading.Settling controllerPath directory deviceId start acts s)
        ?_ ?_ acts s run alone
      · intro _
        refine ⟨rfl, by simp, ?_⟩
        rintro ⟨pre, controller, mid, post, before, after, split, -⟩
        simp at split
      · intro acts s act s' run before taken alone
        have other := (along_iff (exec_snoc run taken)).mp alone acts act [] s rfl run
        exact (before (alone.left run)).step run other taken
    have right := settled.right reloaded
    refine ⟨authenticate_file right device, ?_, ?_⟩
    · intro whole generated good there token
      rw [authenticate_file right device, fileToken_whole directory generated good there,
        Option.some.injEq]
      exact eq_comm
    · intro absent token ok
      rw [authenticate_file right device, fileToken, absent] at ok
      cases ok
  · intro same
    have kept : start.reloads < s.reloads ∨ s.auth = start.auth ∧ s.reloads = start.reloads := by
      refine exec_induction
        (P := fun _ s => start.reloads < s.reloads ∨ s.auth = start.auth ∧ s.reloads = start.reloads)
        (.inr ⟨rfl, rfl⟩) ?_ acts s run
      intro _ s act s' _ holds taken
      rcases (Reloading.rule taken).auth with ⟨auth, count⟩ | ⟨-, -, -, count, -⟩
      · rw [auth, count]
        exact holds
      · left
        omega
    rcases kept with more | ⟨auth, -⟩
    · omega
    · exact auth

/-- The laptop is registered, and the relay has not read it yet. -/
def laptopOnly : Reloading :=
  { noDevices with files := AList.insert (tokenFileName laptopId) (.file (writtenText laptopToken)) ∅ }

def phoneId : String := "rssh-ffffffffffffffffffffffffffffffff"

/-- Meanwhile the phone is being registered. -/
def readBoth : List ReloadAct :=
  [.tick (some controllerText), .create phoneId laptopToken, .visit (tokenFileName laptopId),
    .write 0 32, .visit (tokenFileName phoneId), .write 0 33, .finish]

theorem reload_converges_laptop : ∃ s, exec (Reloading.step "controller.token" "devices") laptopOnly
      readBoth = some s ∧
    authenticate .agent (some laptopId) laptopToken s.auth = .ok () := by
  have runs : ((exec (Reloading.step "controller.token" "devices") laptopOnly readBoth).map fun s =>
      s.reloads) = some 1 := by decide +kernel
  obtain ⟨s, run, once⟩ := Option.map_eq_some_iff.mp runs
  have reads : ((exec (Reloading.step "controller.token" "devices") laptopOnly readBoth.dropLast).map
      fun s => s.reloads) = some 0 := by decide +kernel
  obtain ⟨before, reach, none⟩ := Option.map_eq_some_iff.mp reads
  have settled := reload_converges "controller.token" "devices" laptopId run (by decide +kernel)
  have reloaded : laptopOnly.Reloaded "controller.token" "devices" readBoth := by
    have cut : exec (Reloading.step "controller.token" "devices") laptopOnly
        (readBoth.dropLast ++ [.finish]) = some s := run
    obtain ⟨before', reach', finished⟩ := exec_prefix cut
    obtain rfl : before = before' := Option.some.inj (reach.symm.trans reach')
    refine ⟨[], some controllerText, readBoth.dropLast.tail, [], before, s, rfl, reach, ?_, by omega⟩
    simpa [exec] using finished
  obtain ⟨-, whole, -⟩ := settled.1 reloaded .agent (by decide)
  exact ⟨s, run, (whole laptopToken (by decide +kernel) (by decide +kernel) (by decide +kernel)
    laptopToken).mpr rfl⟩

/-! ## A directory that is left alone -/

/-- Every entry can be read, or is passed over. -/
def AllRead (directory : String) (files : HashMap Bytes Node) : Prop :=
  ∀ name node, files.lookup name = some node → ∃ found, readEntry directory ⟨name, node⟩ = .ok found

def ControllerRead (controller : Option Bytes) : Prop :=
  ∃ text token, controller.bind readString = some text ∧
    validateToken text "controller token" = .ok token

/-- A scan under way is fair to every file. -/
def Reloading.FairScan (s : Reloading) : Prop :=
  ∀ scan, s.scan = some scan → ∀ name, scan.Fair name (s.files.lookup name)

/-- Everything that the next reload reads is good. -/
structure Reloading.Sound (directory : String) (s : Reloading) : Prop where
  fair : s.FairScan
  read : AllRead directory s.files
  controller : ∀ scan, s.scan = some scan → ControllerRead scan.controller

section

variable {controllerPath directory : String} {s s' : Reloading} {act : ReloadAct}

/-- A scan that was fair to all files loads if all files can be read. -/
theorem fair_loads {scan : Scan} {files : HashMap Bytes Node}
    (fair : ∀ name, scan.Fair name (files.lookup name)) (ended : scan.listed = [])
    (directory : String) :
    (∃ tokens, loadDeviceTokens directory (some scan.seen) = .ok tokens) ↔
      AllRead directory files := by
  have distinct := (fair []).distinct
  rw [@loadDeviceTokens_ok directory ⟨scan.seen, distinct⟩ scan.seen (List.Perm.refl _)]
  constructor
  · intro all name node there
    exact all ⟨name, node⟩ (((fair name).done ended node).mpr there)
  · rintro all ⟨name, node⟩ member
    exact all name node (((fair name).done ended node).mp member)

theorem Reloading.Rule.fairScan (rule : Reloading.Rule controllerPath directory s act s')
    (still : s.changed act = none) (fair : s.FairScan) : s'.FairScan := by
  intro scan scanning name
  refine rule.fair ?_ (fun scan was => fair scan was name) scan scanning
  rw [still]
  exact nofun

theorem Reloading.Rule.allRead (rule : Reloading.Rule controllerPath directory s act s')
    (still : s.changed act = none) : AllRead directory s'.files ↔ AllRead directory s.files := by
  have same (name : Bytes) : s'.files.lookup name = s.files.lookup name := by
    apply rule.untouched
    rw [still]
    exact nofun
  simp only [AllRead, same]

theorem Reloading.Rule.controller (rule : Reloading.Rule controllerPath directory s act s')
    (good : ∀ controller, act = .tick controller → ControllerRead controller)
    (was : ∀ scan, s.scan = some scan → ControllerRead scan.controller) :
    ∀ scan, s'.scan = some scan → ControllerRead scan.controller := by
  intro scan scanning
  cases rule with
  | create | write | lost | remove => exact was scan scanning
  | tick controller idle =>
      cases scanning
      exact good controller rfl
  | visit before | gone before | miss before =>
      cases scanning
      have earlier := was _ before
      exact earlier
  | failed | loaded | kept => cases scanning

theorem Reloading.Sound.step (sound : s.Sound directory)
    (rule : Reloading.Rule controllerPath directory s act s') (still : s.changed act = none)
    (good : ∀ controller, act = .tick controller → ControllerRead controller) :
    s'.Sound directory ∧ s'.reloads = s.reloads + [act].count .finish := by
  refine ⟨⟨rule.fairScan still sound.fair, (rule.allRead still).mpr sound.read,
    rule.controller good sound.controller⟩, ?_⟩
  cases rule with
  | loaded => rfl
  | create | write | lost | remove | tick | visit | gone | miss | failed => rfl
  | @kept scan error scanning ended bad =>
      exfalso
      obtain ⟨text, token, content, checked⟩ := sound.controller scan scanning
      obtain ⟨tokens, loaded⟩ := (fair_loads (sound.fair scan scanning) ended directory).mpr sound.read
      have all : loadAuthSnapshot controllerPath scan.controller directory (some scan.seen) =
          .ok ⟨token, tokens⟩ := loadAuthSnapshot_ok.mpr ⟨⟨text, content, checked⟩, loaded⟩
      rw [bad] at all
      cases all

/-- In a directory with a bad file no reload succeeds. -/
theorem Reloading.Rule.frozen (rule : Reloading.Rule controllerPath directory s act s')
    (fair : s.FairScan) (bad : ¬ AllRead directory s.files) :
    s'.auth = s.auth ∧ s'.reloads = s.reloads := by
  rcases rule.auth with same | ⟨scan, scanning, ended, -, -, -, good⟩
  · exact same
  · obtain ⟨-, loaded⟩ := loadAuthSnapshot_ok.mp good
    exact absurd ((fair_loads (fair scan scanning) ended directory).mp ⟨_, loaded⟩) bad

theorem Reloading.Sound.run {acts : List ReloadAct} (sound : s.Sound directory)
    (run : exec (Reloading.step controllerPath directory) s acts = some s')
    (still : Along (Reloading.step controllerPath directory)
      (fun s act => s.changed act = none) s acts)
    (good : ∀ controller, ReloadAct.tick controller ∈ acts → ControllerRead controller) :
    s'.reloads = s.reloads + acts.count .finish := by
  induction acts generalizing s with
  | nil =>
      cases run
      rfl
  | cons act rest ih =>
      obtain ⟨t, taken, last⟩ := Option.bind_eq_some_iff.mp run
      obtain ⟨here, later⟩ := still
      rw [taken] at later
      obtain ⟨next, count⟩ := sound.step (Reloading.rule taken) here fun controller same =>
        good controller (by rw [same]; exact List.mem_cons_self)
      have more := ih next last later fun controller member =>
        good controller (List.mem_cons_of_mem _ member)
      calc s'.reloads = s.reloads + [act].count .finish + rest.count .finish := by rw [more, count]
        _ = s.reloads + ([act] ++ rest).count .finish := by rw [List.count_append, Nat.add_assoc]

end

/-- **All or nothing**: in a directory that is left alone every reload succeeds if every token file
in it is good (and the controller's), and otherwise none does: one bad file keeps what every
other device was given or was denied. -/
theorem reload_all_or_nothing (controllerPath directory : String) {start s : Reloading}
    {acts : List ReloadAct} (idle : start.scan = none)
    (run : exec (Reloading.step controllerPath directory) start acts = some s)
    (still : Along (Reloading.step controllerPath directory)
      (fun s act => s.changed act = none) start acts) :
    (AllRead directory start.files →
      (∀ controller, ReloadAct.tick controller ∈ acts → ControllerRead controller) →
      s.reloads = start.reloads + acts.count .finish) ∧
    (¬ AllRead directory start.files → s.reloads = start.reloads ∧ s.auth = start.auth) := by
  have unscanned (scan : Scan) : start.scan ≠ some scan := by simp [idle]
  have fair : start.FairScan := fun scan scanning => absurd scanning (unscanned scan)
  constructor
  · intro read good
    have sound : start.Sound directory :=
      ⟨fair, read, fun scan scanning => absurd scanning (unscanned scan)⟩
    exact sound.run run still good
  · intro bad
    have frozen : s.FairScan ∧ ¬ AllRead directory s.files ∧
        s.reloads = start.reloads ∧ s.auth = start.auth := by
      refine still.preserves (I := fun s => s.FairScan ∧ ¬ AllRead directory s.files ∧
        s.reloads = start.reloads ∧ s.auth = start.auth) ?_ run ⟨fair, bad, rfl, rfl⟩
      rintro s act s' ⟨fair, bad, count, same⟩ still taken
      have rule := Reloading.rule taken
      obtain ⟨auth, reloads⟩ := rule.frozen fair bad
      exact ⟨rule.fairScan still fair, fun read => bad ((rule.allRead still).mp read),
        reloads.trans count, auth.trans same⟩
    exact frozen.2.2

/-- A file that cannot be read stands beside the laptop's. -/
def besideLaptop : Reloading :=
  { laptopOnly with files := laptopOnly.files.insert (tokenFileName phoneId) .unreadable }

theorem laptopOnly_read : AllRead "devices" laptopOnly.files := by
  intro name node there
  have own : (name, node) = (tokenFileName laptopId, .file (writtenText laptopToken)) := by
    rcases HashMap.lookup_insert_iff.mp there with ⟨rfl, rfl⟩ | ⟨-, never⟩
    · rfl
    · cases never
  obtain ⟨rfl, rfl⟩ := Prod.mk.inj own
  have good : (readEntry "devices"
      ⟨tokenFileName laptopId, .file (writtenText laptopToken)⟩).toOption.isSome = true := by
    decide +kernel
  cases read : readEntry "devices" ⟨tokenFileName laptopId, .file (writtenText laptopToken)⟩ with
  | ok found => exact ⟨found, rfl⟩
  | error error =>
      rw [read] at good
      cases good

theorem besideLaptop_unread : ¬ AllRead "devices" besideLaptop.files := by
  intro read
  have there : besideLaptop.files.lookup (tokenFileName phoneId) = some .unreadable := by
    decide +kernel
  obtain ⟨found, good⟩ := read (tokenFileName phoneId) .unreadable there
  have refused : (readEntry "devices" ⟨tokenFileName phoneId, .unreadable⟩).toOption = none := by
    decide +kernel
  rw [good] at refused
  cases refused

/-- A reload of the laptop's directory, and one of the directory with the other file in it. -/
theorem reload_all_or_nothing_laptop :
    (∃ s, exec (Reloading.step "controller.token" "devices") laptopOnly
      [.tick (some controllerText), .visit (tokenFileName laptopId), .finish] = some s ∧
      s.reloads = 1) ∧
    ∃ s, exec (Reloading.step "controller.token" "devices") besideLaptop
      [.tick (some controllerText), .visit (tokenFileName laptopId), .visit (tokenFileName phoneId),
        .finish] = some s ∧ s.reloads = 0 ∧ s.auth = noDevices.auth := by
  have loads : (exec (Reloading.step "controller.token" "devices") laptopOnly
      [.tick (some controllerText), .visit (tokenFileName laptopId), .finish]).isSome = true := by
    decide +kernel
  have keeps : (exec (Reloading.step "controller.token" "devices") besideLaptop
      [.tick (some controllerText), .visit (tokenFileName laptopId), .visit (tokenFileName phoneId),
        .finish]).isSome = true := by decide +kernel
  constructor
  · obtain ⟨s, run⟩ := Option.isSome_iff_exists.mp loads
    obtain ⟨succeed, -⟩ := reload_all_or_nothing "controller.token" "devices" rfl run
      (by decide +kernel)
    refine ⟨s, run, succeed laptopOnly_read fun controller ticked => ?_⟩
    simp only [List.mem_cons, List.not_mem_nil, or_false, reduceCtorEq, ReloadAct.tick.injEq] at ticked
    rw [ticked]
    exact ⟨noDevices.auth.controllerToken, noDevices.auth.controllerToken, by decide +kernel,
      by decide +kernel⟩
  · obtain ⟨s, run⟩ := Option.isSome_iff_exists.mp keeps
    obtain ⟨-, frozen⟩ := reload_all_or_nothing "controller.token" "devices" rfl run
      (by decide +kernel)
    exact ⟨s, run, frozen besideLaptop_unread⟩

end RustSsh.Server
