/-
# Server.TokenDirectory -- what a token directory loads as

`load_device_token_records` as a function of the directory and not of the order `read_dir`
yields it in: which directories load, and as what (`token_directory`).  The relay compares
successive loads to see whether a token has changed, so an order must not make a difference.
-/
import RustSsh.Server.TokenFiles
import RustSsh.Theory.SortBy

namespace RustSsh.Server

open RustSsh.Theory RustSsh.Protocol

set_option autoImplicit false

/-- A regular file whose name is UTF-8 and ends in `.token`, with what stands before that. -/
structure DirEntry.TokenNamed (entry : DirEntry) (stem : Text) : Prop where
  regular : entry.node.regular.isSome = true
  named : Text.decode entry.name = some (stem ++ tokenSuffix)

/-- What `read_to_string` gives. -/
def DirEntry.text (entry : DirEntry) : Option String := entry.node.regular.join.bind readString

/-- A content that is a token: its trimmed length is within the bounds. -/
def TokenText (text : String) : Prop :=
  minTokenBytes ≤ (utf8 (trimmed text)).length ∧ (utf8 (trimmed text)).length ≤ maxTokenBytes

/-- The record of a token file. -/
def tokenRecord (directory : String) (stem : Text) (text : String) : TokenRecord where
  deviceId := String.ofList stem
  path := directory ++ "/" ++ String.ofList (stem ++ tokenSuffix)
  token := trimmed text

/-! ## One entry -/

theorem validateToken_text (text label : String) :
    (∃ token, validateToken text label = .ok token) ↔ TokenText text := by
  constructor
  · rintro ⟨token, good⟩
    obtain ⟨rfl, long, short⟩ := validateToken_ok good
    exact ⟨long, short⟩
  · rintro ⟨long, short⟩
    refine ⟨trimmed text, ?_⟩
    simp only [validateToken, Nat.not_lt.mpr long, Nat.not_lt.mpr short, if_false]

/-- Every other entry is passed over. -/
theorem readEntry_other {directory : String} {entry : DirEntry}
    (other : ∀ stem, ¬ entry.TokenNamed stem) : readEntry directory entry = .ok none := by
  unfold readEntry
  split
  · rename_i content fileName regular named
    split
    · rename_i suffix
      obtain ⟨stem, rfl⟩ := List.isSuffixOf_iff_suffix.mp suffix
      exact absurd ⟨by rw [regular]; rfl, named⟩ (other stem)
    · rfl
  · rfl

/-- A token file is read if its stem is a device id and its content a token. -/
theorem readEntry_tokenNamed {directory : String} {entry : DirEntry} {stem : Text}
    (tokenNamed : entry.TokenNamed stem) (found : Option TokenRecord) :
    readEntry directory entry = .ok found ↔
      DeviceId.isValid (String.ofList stem) = true ∧
      ∃ text, entry.text = some text ∧ TokenText text ∧
        found = some (tokenRecord directory stem text) := by
  obtain ⟨content, regular⟩ := Option.isSome_iff_exists.mp tokenNamed.regular
  have suffix : tokenSuffix.isSuffixOf (stem ++ tokenSuffix) = true :=
    List.isSuffixOf_iff_suffix.mpr (List.suffix_append ..)
  have front : (stem ++ tokenSuffix).take ((stem ++ tokenSuffix).length - tokenSuffix.length) =
      stem := by
    rw [List.length_append, Nat.add_sub_cancel, List.take_left]
  simp only [readEntry, regular, tokenNamed.named, suffix, if_true, front, DirEntry.text,
    Option.join_some]
  cases DeviceId.isValid (String.ofList stem) with
  | false => simp
  | true =>
      cases content.bind readString with
      | none => simp
      | some text =>
          simp only [Bool.not_true, Bool.false_eq_true, if_false, true_and, Option.some.injEq,
            exists_eq_left', ← validateToken_text text s!"device token for {String.ofList stem}"]
          cases checked : validateToken text s!"device token for {String.ofList stem}" with
          | error error => simp
          | ok token =>
              obtain ⟨rfl, -⟩ := validateToken_ok checked
              simp [tokenRecord, eq_comm]

theorem readEntry_ok_iff {directory : String} {entry : DirEntry} :
    (∃ found, readEntry directory entry = .ok found) ↔
      ∀ stem, entry.TokenNamed stem → DeviceId.isValid (String.ofList stem) = true ∧
        ∃ text, entry.text = some text ∧ TokenText text := by
  constructor
  · rintro ⟨found, read⟩ stem tokenNamed
    obtain ⟨valid, text, content, good, -⟩ := (readEntry_tokenNamed tokenNamed found).mp read
    exact ⟨valid, text, content, good⟩
  · intro each
    by_cases named : ∃ stem, entry.TokenNamed stem
    · obtain ⟨stem, tokenNamed⟩ := named
      obtain ⟨valid, text, content, good⟩ := each stem tokenNamed
      exact ⟨_, (readEntry_tokenNamed tokenNamed _).mpr ⟨valid, text, content, good, rfl⟩⟩
    · exact ⟨none, readEntry_other fun stem tokenNamed => named ⟨stem, tokenNamed⟩⟩

theorem readEntry_record {directory : String} {entry : DirEntry} {record : TokenRecord} :
    readEntry directory entry = .ok (some record) ↔
      ∃ stem text, entry.TokenNamed stem ∧ DeviceId.isValid (String.ofList stem) = true ∧
        entry.text = some text ∧ TokenText text ∧ record = tokenRecord directory stem text := by
  constructor
  · intro read
    by_cases named : ∃ stem, entry.TokenNamed stem
    · obtain ⟨stem, tokenNamed⟩ := named
      obtain ⟨valid, text, content, good, same⟩ := (readEntry_tokenNamed tokenNamed _).mp read
      exact ⟨stem, text, tokenNamed, valid, content, good, Option.some.inj same⟩
    · rw [readEntry_other fun stem tokenNamed => named ⟨stem, tokenNamed⟩] at read
      cases read
  · rintro ⟨stem, text, tokenNamed, valid, content, good, rfl⟩
    exact (readEntry_tokenNamed tokenNamed _).mpr ⟨valid, text, content, good, rfl⟩

/-! ## Errors -/

/-- No text that starts otherwise is the duplicate error. -/
theorem not_duplicate {start : String} (other : start.toList.take 2 ≠ "du".toList)
    (long : 2 ≤ start.toList.length) (rest deviceId : String) :
    start ++ rest ≠ s!"duplicate device token for {deviceId}" := by
  intro same
  have front := congrArg (fun s : String => s.toList.take 2) same
  simp only [String.toList_append] at front
  rw [List.take_append_of_le_length long] at front
  exact other front

theorem validateToken_error {token deviceId error : String}
    (refused : validateToken token s!"device token for {deviceId}" = .error error) :
    ∃ rest, error = "device token for " ++ rest := by
  unfold validateToken at refused
  simp only at refused
  split at refused
  · cases refused
    exact ⟨deviceId ++ s!" must contain at least {minTokenBytes} non-whitespace bytes", by
      simp only [toString, String.append_assoc]⟩
  · split at refused
    · cases refused
      exact ⟨deviceId ++ " is too large", String.append_assoc⟩
    · cases refused

/-- The error of an entry is about its name or its content. -/
theorem readEntry_error {directory : String} {entry : DirEntry} {error : String}
    (refused : readEntry directory entry = .error error) (deviceId : String) :
    error ≠ s!"duplicate device token for {deviceId}" := by
  unfold readEntry at refused
  split at refused
  · split at refused
    · simp only at refused
      split at refused
      · cases refused
        exact not_duplicate (by decide) (by decide) _ _
      · split at refused
        · cases refused
          exact not_duplicate (by decide) (by decide) _ _
        · split at refused
          · rename_i checked
            cases refused
            obtain ⟨rest, rfl⟩ := validateToken_error checked
            exact not_duplicate (by decide) (by decide) _ _
          · cases refused
    · cases refused
  · cases refused

/-- With distinct names the loop fails only where an entry does. -/
theorem loadFrom_error {directory : String} {pushed : List TokenRecord} {entries : List DirEntry}
    (distinct : ((pushed ++ records directory entries).map TokenRecord.deviceId).Nodup)
    {error : String} (failed : loadFrom directory pushed entries = .error error) :
    ∃ entry ∈ entries, readEntry directory entry = .error error := by
  induction entries generalizing pushed with
  | nil => cases failed
  | cons entry rest ih =>
      cases result : readEntry directory entry with
      | error reason =>
          simp only [loadFrom, result] at failed
          cases failed
          exact ⟨entry, List.mem_cons_self, result⟩
      | ok found =>
          have later : ∃ other ∈ rest, readEntry directory other = .error error := by
            cases found with
            | none =>
                simp only [loadFrom, result] at failed
                rw [records_none rest result] at distinct
                exact ih distinct failed
            | some record =>
                rw [records_some rest result] at distinct
                simp only [loadFrom, result, records_fresh distinct, Bool.false_eq_true, if_false]
                  at failed
                rw [List.append_cons] at distinct
                exact ih distinct failed
          obtain ⟨other, member, refused⟩ := later
          exact ⟨other, List.mem_cons_of_mem _ member, refused⟩

/-! ## The directory -/

section

variable {directory : String} {d : Directory} {order : List DirEntry}

theorem order_distinct (directory : String) (perm : order.Perm d.entries) :
    ((records directory order).map TokenRecord.deviceId).Nodup :=
  records_distinct (((perm.map DirEntry.name).nodup_iff).mpr d.distinct)

theorem loadDeviceTokenRecords_ok (perm : order.Perm d.entries) (loaded : List TokenRecord) :
    loadDeviceTokenRecords directory (some order) = .ok loaded ↔
      (∀ entry ∈ d.entries, ∃ found, readEntry directory entry = .ok found) ∧
        loaded = (records directory order).mergeSort fun left right =>
          left.deviceId ≤ right.deviceId := by
  cases run : loadFrom directory [] order with
  | error error =>
      have none : ¬ ∀ entry ∈ d.entries, ∃ found, readEntry directory entry = .ok found := by
        intro all
        have ok := (loadRecords_ok perm _).mpr ⟨all, rfl⟩
        rw [run] at ok
        cases ok
      simp [loadDeviceTokenRecords, run, Except.map, none]
  | ok out =>
      obtain ⟨all, rfl⟩ := (loadRecords_ok perm out).mp run
      simp only [loadDeviceTokenRecords, run, Except.map, Except.ok.injEq]
      exact ⟨fun same => ⟨all, same.symm⟩, fun both => both.2.symm⟩

theorem loadDeviceTokenRecords_error (perm : order.Perm d.entries) {error : String}
    (failed : loadDeviceTokenRecords directory (some order) = .error error) :
    ∃ entry ∈ d.entries, readEntry directory entry = .error error := by
  cases run : loadFrom directory [] order with
  | ok out => simp [loadDeviceTokenRecords, run, Except.map] at failed
  | error reason =>
      simp only [loadDeviceTokenRecords, run, Except.map, Except.error.injEq] at failed
      obtain ⟨entry, member, refused⟩ :=
        loadFrom_error (by simpa using order_distinct directory perm) run
      rw [← failed]
      exact ⟨entry, perm.mem_iff.mp member, refused⟩

end

/-- **A token directory loads as what it holds**: it loads exactly if every token file is
good, its records are those of the token files, in the order of the devices whatever order the
directory is read in, and no two are of one device. -/
theorem token_directory (directory : String) (d : Directory) (order : List DirEntry)
    (perm : order.Perm d.entries) :
    ((∃ loaded, loadDeviceTokenRecords directory (some order) = .ok loaded) ↔
      ∀ entry ∈ d.entries, ∀ stem, entry.TokenNamed stem →
        DeviceId.isValid (String.ofList stem) = true ∧
        ∃ text, entry.text = some text ∧ TokenText text) ∧
    (∀ loaded, loadDeviceTokenRecords directory (some order) = .ok loaded →
      loaded.Pairwise (fun left right => left.deviceId < right.deviceId) ∧
      (loaded.map TokenRecord.deviceId).Nodup ∧
      (∀ record, record ∈ loaded ↔ ∃ entry ∈ d.entries, ∃ stem text, entry.TokenNamed stem ∧
        entry.text = some text ∧ record = tokenRecord directory stem text) ∧
      ∀ other : List DirEntry, other.Perm d.entries →
        loadDeviceTokenRecords directory (some other) = .ok loaded) ∧
    ∀ deviceId : String, loadDeviceTokenRecords directory (some order) ≠
      .error s!"duplicate device token for {deviceId}" := by
  have distinct := order_distinct directory perm
  have sorted := List.mergeSort_perm (records directory order)
    fun left right => decide (left.deviceId ≤ right.deviceId)
  refine ⟨?_, ?_, ?_⟩
  · simp only [loadDeviceTokenRecords_ok perm, exists_and_left, exists_eq, and_true,
      readEntry_ok_iff]
  · intro loaded ok
    obtain ⟨all, rfl⟩ := (loadDeviceTokenRecords_ok perm loaded).mp ok
    refine ⟨sortBy_strict TokenRecord.deviceId distinct,
      ((sorted.map TokenRecord.deviceId).nodup_iff).mpr distinct, ?_, ?_⟩
    · intro record
      rw [sorted.mem_iff, mem_records]
      simp only [perm.mem_iff, readEntry_record]
      constructor
      · rintro ⟨entry, member, stem, text, tokenNamed, -, content, -, same⟩
        exact ⟨entry, member, stem, text, tokenNamed, content, same⟩
      · rintro ⟨entry, member, stem, text, tokenNamed, content, same⟩
        obtain ⟨valid, text', content', good⟩ :=
          readEntry_ok_iff.mp (all entry member) stem tokenNamed
        obtain rfl := Option.some.inj (content.symm.trans content')
        exact ⟨entry, member, stem, text, tokenNamed, valid, content, good, same⟩
    · intro other otherPerm
      have shuffled : (records directory order).Perm (records directory other) :=
        (perm.trans otherPerm.symm).filterMap _
      exact (loadDeviceTokenRecords_ok otherPerm _).mpr
        ⟨all, sortBy_perm TokenRecord.deviceId shuffled distinct⟩
  · intro deviceId failed
    obtain ⟨entry, -, refused⟩ := loadDeviceTokenRecords_error perm failed
    exact readEntry_error refused deviceId rfl

/-- Two token files, a name that is not UTF-8 and a directory. -/
def twoDevices : Directory where
  entries :=
    [⟨tokenFileName "b", .file (List.replicate 32 98)⟩, ⟨[0xff], .unreadable⟩,
      ⟨tokenFileName "a", .file (List.replicate 32 97 ++ [10])⟩, ⟨tokenFileName "c", .other⟩]
  distinct := by decide +kernel

theorem token_directory_reversed : ∃ loaded,
    loadDeviceTokenRecords "devices" (some twoDevices.entries.reverse) = .ok loaded ∧
      loaded.Pairwise (fun left right => left.deviceId < right.deviceId) ∧
      loadDeviceTokenRecords "devices" (some twoDevices.entries) = .ok loaded := by
  have loads : (loadDeviceTokenRecords "devices"
      (some twoDevices.entries.reverse)).toOption.isSome = true := by
    decide +kernel
  cases run : loadDeviceTokenRecords "devices" (some twoDevices.entries.reverse) with
  | error error =>
      rw [run] at loads
      cases loads
  | ok loaded =>
      obtain ⟨-, exactly, -⟩ := token_directory "devices" twoDevices _ (List.reverse_perm _)
      obtain ⟨sorted, -, -, same⟩ := exactly loaded run
      exact ⟨loaded, rfl, sorted, same _ (List.Perm.refl _)⟩

end RustSsh.Server
