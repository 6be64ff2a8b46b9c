/-
# Server.TokenFiles -- the token files of a relay

`load_auth_snapshot`, `load_device_tokens`, `load_device_token_records` and
`validate_token` of `src/server.rs`, on a directory as `read_dir` lists it.  A file is
read for itself (`readEntry`), so the directory loads if each of its files does
(`loadRecords_ok`), whatever the order, and a device's token is the content of its file
(`loadDeviceTokens_lookup`).
-/
import RustSsh.Theory.Text
import RustSsh.Server.Auth

namespace RustSsh.Server

open RustSsh.Theory RustSsh.Protocol

set_option autoImplicit false

/-! ## The directory -/

/-- What a name stands for; `Path::exists` holds of all but a link to nothing. -/
inductive Node where
  | file (content : Bytes)
  /-- a regular file that cannot be read -/
  | unreadable
  | other
  | dangling
  deriving DecidableEq, Repr

/-- What `fs::read` finds in a node for which `FileType::is_file` holds. -/
def Node.regular : Node → Option (Option Bytes)
  | .file content => some (some content)
  | .unreadable => some none
  | .other | .dangling => none

/-- An entry as `read_dir` yields it, with the bytes of its name. -/
structure DirEntry where
  name : Bytes
  node : Node
  deriving DecidableEq, Repr

/-- A directory has one entry for a name. -/
structure Directory where
  entries : List DirEntry
  distinct : (entries.map DirEntry.name).Nodup
  deriving DecidableEq

namespace Directory

def empty : Directory := ⟨[], List.nodup_nil⟩

def has (d : Directory) (name : Bytes) : Prop := name ∈ d.entries.map DirEntry.name

instance (d : Directory) (name : Bytes) : Decidable (d.has name) :=
  inferInstanceAs (Decidable (name ∈ _))

/-- `Path::exists` of a name in the directory. -/
def pathExists (d : Directory) (name : Bytes) : Bool :=
  d.entries.any fun entry => entry.name == name && entry.node != .dangling

theorem has_of_pathExists {d : Directory} {name : Bytes} (found : d.pathExists name = true) :
    d.has name := by
  obtain ⟨entry, member, same⟩ := List.any_eq_true.mp found
  rw [Bool.and_eq_true, beq_iff_eq] at same
  exact List.mem_map.mpr ⟨entry, member, same.1⟩

/-- The directory with one more file. -/
def add (d : Directory) (name : Bytes) (content : Bytes) (new : ¬ d.has name) : Directory where
  entries := d.entries ++ [⟨name, .file content⟩]
  distinct := by
    rw [List.map_append, List.nodup_append]
    refine ⟨d.distinct, List.nodup_singleton _, ?_⟩
    intro a member b here
    rw [List.mem_singleton.mp here]
    rintro rfl
    exact new member

end Directory

/-! ## The source's functions -/

/-- `str::trim` of a string. -/
def trimmed (s : String) : String := String.ofList (Text.trim s.toList)

def validateToken (token label : String) : Except String String :=
  let token := trimmed token
  if (utf8 token).length < minTokenBytes then
    .error s!"{label} must contain at least {minTokenBytes} non-whitespace bytes"
  else if maxTokenBytes < (utf8 token).length then .error s!"{label} is too large"
  else .ok token

structure TokenRecord where
  deviceId : String
  path : String
  token : String
  deriving DecidableEq, Repr

def tokenSuffix : Text := ".token".toList

/-- `read_to_string` of what a file holds. -/
def readString (content : Bytes) : Option String := (Text.decode content).map String.ofList

/-- What the loop of `load_device_token_records` makes of one entry; `none` is `continue`. -/
def readEntry (directory : String) (entry : DirEntry) : Except String (Option TokenRecord) :=
  match entry.node.regular, Text.decode entry.name with
  | some content, some fileName =>
      if tokenSuffix.isSuffixOf fileName then
        let deviceId := String.ofList (fileName.take (fileName.length - tokenSuffix.length))
        let path := directory ++ "/" ++ String.ofList fileName
        if !DeviceId.isValid deviceId then
          .error ("device token filename must be <device_id>.token with a valid device id: " ++ path)
        else
          match content.bind readString with
          | none => .error s!"reading device token {path}"
          | some token =>
              match validateToken token s!"device token for {deviceId}" with
              | .error error => .error error
              | .ok token => .ok (some { deviceId, path, token })
      else .ok none
  | _, _ => .ok none

/-- The loop, with the records it has pushed. -/
def loadFrom (directory : String) : List TokenRecord → List DirEntry → Except String (List TokenRecord)
  | records, [] => .ok records
  | records, entry :: rest =>
      match readEntry directory entry with
      | .error error => .error error
      | .ok none => loadFrom directory records rest
      | .ok (some record) =>
          if records.any fun other => other.deviceId == record.deviceId then
            .error s!"duplicate device token for {record.deviceId}"
          else loadFrom directory (records ++ [record]) rest

/-- `entries` is the order `read_dir` yields; `none` is a directory that cannot be read. -/
def loadDeviceTokenRecords (directory : String) (entries : Option (List DirEntry)) :
    Except String (List TokenRecord) :=
  match entries with
  | none => .error s!"reading device token directory {directory}"
  | some entries =>
      (loadFrom directory [] entries).map fun records =>
        records.mergeSort fun left right => left.deviceId ≤ right.deviceId

def loadDeviceTokens (directory : String) (entries : Option (List DirEntry)) :
    Except String (HashMap String String) :=
  (loadDeviceTokenRecords directory entries).map fun records =>
    records.foldl (fun tokens record => tokens.insert record.deviceId record.token) ∅

def loadAuthSnapshot (controllerPath : String) (controllerFile : Option Bytes) (directory : String)
    (entries : Option (List DirEntry)) : Except String AuthSnapshot :=
  match controllerFile.bind readString with
  | none => .error s!"reading controller token file {controllerPath}"
  | some controllerToken =>
      match validateToken controllerToken "controller token" with
      | .error error => .error error
      | .ok controllerToken =>
          match loadDeviceTokens directory entries with
          | .error error => .error error
          | .ok deviceTokens => .ok { controllerToken, deviceTokens }

/-! ## One file -/

/-- The name of a device's token file. -/
def tokenFileName (deviceId : String) : Bytes := Text.encode (deviceId.toList ++ tokenSuffix)

@[simp] theorem trimmed_trimmed (s : String) : trimmed (trimmed s) = trimmed s := by
  simp [trimmed]

/-- A valid id has no white space to trim. -/
theorem trimmed_id {deviceId : String} (valid : DeviceId.isValid deviceId = true) :
    trimmed deviceId = deviceId := by
  rw [← String.ofList_toList (s := deviceId)] at valid
  obtain ⟨-, -, allowed⟩ := DeviceId.isValid_ofList.mp valid
  rw [trimmed, Text.trim_of_solid fun c inside =>
    DeviceId.allowedChar_not_whitespace (allowed c inside), String.ofList_toList]

/-- A record is read from the file that has the device's name. -/
theorem readEntry_name {directory : String} {entry : DirEntry} {record : TokenRecord}
    (read : readEntry directory entry = .ok (some record)) :
    entry.name = tokenFileName record.deviceId := by
  unfold readEntry at read
  split at read
  · rename_i content fileName file named
    split at read
    · rename_i suffix
      simp only at read
      split at read
      · cases read
      · split at read
        · cases read
        · split at read
          · cases read
          · cases read
            obtain ⟨front, split⟩ := List.isSuffixOf_iff_suffix.mp suffix
            have front_eq : fileName.take (fileName.length - tokenSuffix.length) = front := by
              rw [← split, List.length_append, Nat.add_sub_cancel, List.take_left]
            rw [tokenFileName, String.toList_ofList, front_eq, split]
            exact (Text.encode_of_decode named).symm
    · cases read
  · cases read

/-- A token file with a good content is read. -/
theorem readEntry_token {directory deviceId token : String} {content : Bytes} {text : String}
    (valid : DeviceId.isValid deviceId = true) (read : readString content = some text)
    (good : ∀ label, validateToken text label = .ok token) :
    ∃ path, readEntry directory ⟨tokenFileName deviceId, .file content⟩ =
      .ok (some { deviceId, path, token }) := by
  refine ⟨directory ++ "/" ++ String.ofList (deviceId.toList ++ tokenSuffix), ?_⟩
  have named : Text.decode (tokenFileName deviceId) = some (deviceId.toList ++ tokenSuffix) :=
    Text.decode_encode _
  have suffix : tokenSuffix.isSuffixOf (deviceId.toList ++ tokenSuffix) = true :=
    List.isSuffixOf_iff_suffix.mpr (List.suffix_append ..)
  have front : String.ofList ((deviceId.toList ++ tokenSuffix).take
      ((deviceId.toList ++ tokenSuffix).length - tokenSuffix.length)) = deviceId := by
    rw [List.length_append, Nat.add_sub_cancel, List.take_left, String.ofList_toList]
  simp only [readEntry, Node.regular, Option.bind_some, named, suffix, if_true, front, valid, read,
    good]
  rfl

theorem validateToken_ok {token label : String} {out : String}
    (good : validateToken token label = .ok out) :
    out = trimmed token ∧ minTokenBytes ≤ (utf8 out).length ∧ (utf8 out).length ≤ maxTokenBytes := by
  unfold validateToken at good
  simp only at good
  split at good
  · cases good
  · split at good
    · cases good
    · cases good
      exact ⟨rfl, by omega, by omega⟩

/-! ## The directory loads file by file -/

/-- The records of the entries that have one. -/
def records (directory : String) (entries : List DirEntry) : List TokenRecord :=
  entries.filterMap fun entry => (readEntry directory entry).toOption.join

theorem mem_records {directory : String} {entries : List DirEntry} {record : TokenRecord} :
    record ∈ records directory entries ↔
      ∃ entry ∈ entries, readEntry directory entry = .ok (some record) := by
  rw [records, List.mem_filterMap]
  constructor
  · rintro ⟨entry, member, read⟩
    refine ⟨entry, member, ?_⟩
    cases result : readEntry directory entry with
    | error error => simp [result, Except.toOption] at read
    | ok found =>
        rw [result] at read
        exact congrArg _ (by simpa [Except.toOption] using read)
  · rintro ⟨entry, member, read⟩
    exact ⟨entry, member, by simp [read, Except.toOption]⟩

theorem records_none {directory : String} {entry : DirEntry} (rest : List DirEntry)
    (passed : readEntry directory entry = .ok none) :
    records directory (entry :: rest) = records directory rest := by
  simp [records, passed, Except.toOption]

theorem records_some {directory : String} {entry : DirEntry} {record : TokenRecord}
    (rest : List DirEntry) (read : readEntry directory entry = .ok (some record)) :
    records directory (entry :: rest) = record :: records directory rest := by
  simp [records, read, Except.toOption]

/-- Files with different names are records of different devices. -/
theorem records_distinct {directory : String} {entries : List DirEntry}
    (distinct : (entries.map DirEntry.name).Nodup) :
    ((records directory entries).map TokenRecord.deviceId).Nodup := by
  induction entries with
  | nil => exact List.nodup_nil
  | cons entry rest ih =>
      rw [List.map_cons, List.nodup_cons] at distinct
      have later := ih distinct.2
      cases result : readEntry directory entry with
      | error error => simpa [records, result, Except.toOption] using later
      | ok found =>
          cases found with
          | none => rwa [records_none rest result]
          | some record =>
              rw [records_some rest result, List.map_cons, List.nodup_cons]
              refine ⟨?_, later⟩
              intro member
              obtain ⟨other, inside, same⟩ := List.mem_map.mp member
              obtain ⟨source, there, read⟩ := mem_records.mp inside
              apply distinct.1
              rw [readEntry_name result, ← same, ← readEntry_name read]
              exact List.mem_map_of_mem there

/-- A record whose device no other has passes the duplicate scan. -/
theorem records_fresh {pushed later : List TokenRecord} {record : TokenRecord}
    (distinct : ((pushed ++ record :: later).map TokenRecord.deviceId).Nodup) :
    (pushed.any fun other => other.deviceId == record.deviceId) = false := by
  rw [List.any_eq_false]
  intro other member
  rw [List.map_append, List.nodup_append] at distinct
  have apart := distinct.2.2 _ (List.mem_map_of_mem member) record.deviceId (by simp)
  simpa using apart

/-- The loop ends well if every entry is read; then it has pushed their records. -/
theorem loadFrom_ok {directory : String} {pushed : List TokenRecord} {entries : List DirEntry}
    (distinct : ((pushed ++ records directory entries).map TokenRecord.deviceId).Nodup)
    (out : List TokenRecord) :
    loadFrom directory pushed entries = .ok out ↔
      (∀ entry ∈ entries, ∃ found, readEntry directory entry = .ok found) ∧
        out = pushed ++ records directory entries := by
  induction entries generalizing pushed with
  | nil =>
      simp only [loadFrom, Except.ok.injEq, List.not_mem_nil, IsEmpty.forall_iff, implies_true,
        true_and, records, List.filterMap_nil, List.append_nil]
      exact eq_comm
  | cons entry rest ih =>
      cases result : readEntry directory entry with
      | error error => simp [loadFrom, result]
      | ok found =>
          cases found with
          | none =>
              rw [records_none rest result] at distinct ⊢
              simp only [loadFrom, result]
              rw [ih distinct]
              simp [result]
          | some record =>
              rw [records_some rest result] at distinct ⊢
              have fresh := records_fresh distinct
              rw [List.append_cons] at distinct ⊢
              simp only [loadFrom, result, fresh, Bool.false_eq_true, if_false]
              rw [ih distinct]
              simp [result]

section

variable {directory : String} {d : Directory} {order : List DirEntry}

theorem loadRecords_ok (perm : order.Perm d.entries) (out : List TokenRecord) :
    loadFrom directory [] order = .ok out ↔
      (∀ entry ∈ d.entries, ∃ found, readEntry directory entry = .ok found) ∧
        out = records directory order := by
  have distinct : (order.map DirEntry.name).Nodup :=
    ((perm.map DirEntry.name).nodup_iff).mpr d.distinct
  rw [loadFrom_ok (by simpa using records_distinct distinct), List.nil_append]
  simp only [perm.mem_iff]

/-- **A directory loads exactly if each of its files does**, in whatever order it is read. -/
theorem loadDeviceTokens_ok (perm : order.Perm d.entries) :
    (∃ tokens, loadDeviceTokens directory (some order) = .ok tokens) ↔
      ∀ entry ∈ d.entries, ∃ found, readEntry directory entry = .ok found := by
  cases loaded : loadFrom directory [] order with
  | error error =>
      have none : ¬ ∀ entry ∈ d.entries, ∃ found, readEntry directory entry = .ok found := by
        intro all
        have ok := (loadRecords_ok perm _).mpr ⟨all, rfl⟩
        rw [loaded] at ok
        cases ok
      simp [loadDeviceTokens, loadDeviceTokenRecords, loaded, Except.map, none]
  | ok out =>
      have all := ((loadRecords_ok perm out).mp loaded).1
      simp only [loadDeviceTokens, loadDeviceTokenRecords, loaded, Except.map]
      exact ⟨fun _ => all, fun _ => ⟨_, rfl⟩⟩

/-- What is loaded for a device is what its file holds. -/
theorem loadDeviceTokens_lookup (perm : order.Perm d.entries) {tokens : HashMap String String}
    (loaded : loadDeviceTokens directory (some order) = .ok tokens) (deviceId token : String) :
    tokens.lookup deviceId = some token ↔
      ∃ entry ∈ d.entries, ∃ path,
        readEntry directory entry = .ok (some { deviceId, path, token }) := by
  cases found : loadFrom directory [] order with
  | error error => simp [loadDeviceTokens, loadDeviceTokenRecords, found, Except.map] at loaded
  | ok out =>
      obtain ⟨-, rfl⟩ := (loadRecords_ok perm out).mp found
      simp only [loadDeviceTokens, loadDeviceTokenRecords, found, Except.map, Except.ok.injEq] at loaded
      have distinct : (order.map DirEntry.name).Nodup :=
        ((perm.map DirEntry.name).nodup_iff).mpr d.distinct
      have sorted := List.mergeSort_perm (records directory order)
        fun left right => decide (left.deviceId ≤ right.deviceId)
      rw [← loaded, HashMap.lookup_foldl_insert
        (((sorted.map TokenRecord.deviceId).nodup_iff).mpr (records_distinct distinct))]
      simp only [sorted.mem_iff, mem_records, perm.mem_iff]
      constructor
      · intro holds
        rcases holds with ⟨record, ⟨entry, member, read⟩, rfl, rfl⟩ | ⟨-, empty⟩
        · exact ⟨entry, member, record.path, read⟩
        · cases empty
      · rintro ⟨entry, member, path, read⟩
        exact .inl ⟨_, ⟨entry, member, read⟩, rfl, rfl⟩

/-- With one more good file the directory still loads; the file's device is the only news. -/
theorem loadDeviceTokens_add (perm : order.Perm d.entries) {tokens : HashMap String String}
    (loaded : loadDeviceTokens directory (some order) = .ok tokens) {deviceId token path : String}
    {name content : Bytes} {new : ¬ d.has name}
    (read : readEntry directory ⟨name, .file content⟩ = .ok (some { deviceId, path, token }))
    {next : List DirEntry} (nextPerm : next.Perm (d.add name content new).entries) :
    ∃ after, loadDeviceTokens directory (some next) = .ok after ∧
      after.lookup deviceId = some token ∧
      ∀ other, other ≠ deviceId → after.lookup other = tokens.lookup other := by
  have readable := (loadDeviceTokens_ok perm).mp ⟨tokens, loaded⟩
  obtain ⟨after, loadedAfter⟩ := (loadDeviceTokens_ok nextPerm).mpr (by
    intro entry member
    cases List.mem_append.mp member with
    | inl old => exact readable entry old
    | inr here =>
        rw [List.mem_singleton.mp here]
        exact ⟨_, read⟩)
  refine ⟨after, loadedAfter, ?_, ?_⟩
  · rw [loadDeviceTokens_lookup nextPerm loadedAfter]
    exact ⟨_, List.mem_append_right _ (List.mem_singleton.mpr rfl), path, read⟩
  · intro other different
    apply Option.ext
    intro stored
    rw [loadDeviceTokens_lookup nextPerm loadedAfter, loadDeviceTokens_lookup perm loaded]
    constructor
    · rintro ⟨entry, member, place, found⟩
      cases List.mem_append.mp member with
      | inl old => exact ⟨entry, old, place, found⟩
      | inr here =>
          rw [List.mem_singleton.mp here, read] at found
          cases found
          exact absurd rfl different
    · rintro ⟨entry, member, place, found⟩
      exact ⟨entry, List.mem_append_left _ member, place, found⟩

theorem loadAuthSnapshot_ok {controllerPath : String} {controllerFile : Option Bytes}
    {entries : Option (List DirEntry)} {auth : AuthSnapshot} :
    loadAuthSnapshot controllerPath controllerFile directory entries = .ok auth ↔
      (∃ text, controllerFile.bind readString = some text ∧
        validateToken text "controller token" = .ok auth.controllerToken) ∧
      loadDeviceTokens directory entries = .ok auth.deviceTokens := by
  unfold loadAuthSnapshot
  cases read : controllerFile.bind readString with
  | none => simp
  | some text =>
      cases checked : validateToken text "controller token" with
      | error error => simp [checked]
      | ok controllerToken =>
          cases loaded : loadDeviceTokens directory entries with
          | error error => simp [checked]
          | ok deviceTokens =>
              obtain ⟨c, t⟩ := auth
              simp [checked]

end

end RustSsh.Server
