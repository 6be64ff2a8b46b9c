/-
# Desktop.SshFile -- the SSH config file under failing steps

`update_managed_ssh_config` of `src/desktop.rs` on a file whose steps may fail.  The file
is opened with truncation before a byte is written and its mode is set after the last, so
a failure from then on leaves something else than the old content: `config_survives` is
the exact list of the failures the file survives.
-/
import RustSsh.Desktop.SshText

namespace RustSsh.Desktop

open RustSsh.Theory

set_option autoImplicit false

/-- A step of the call that can fail. -/
inductive Step where
  /-- `fs::create_dir_all` of the parent -/
  | createDir
  /-- `fs::read_to_string` -/
  | read
  /-- `fs::write`, which opens the file -/
  | openFile
  /-- `fs::write`, which writes to it -/
  | write
  /-- `fs::set_permissions`, on Unix -/
  | permissions
  deriving DecidableEq, Repr

/-- What the file system does in a call: the step that fails, and the number of bytes a
failing write puts into the file. -/
structure Faults where
  failing : Option Step
  cut : Nat
  deriving DecidableEq, Repr

/-- The config's path, as errors show it. -/
structure ConfigPath where
  path : String
  parent : Option String
  deriving DecidableEq, Repr

/-- `fs::read_to_string` of the file, where it is seen. -/
def readConfig (faults : Faults) (path : ConfigPath) (file : Option Bytes) : Except String Text :=
  match file with
  | .none => .ok []
  | some bytes =>
      if faults.failing = some .read then .error s!"读取 SSH 配置 {path.path}"
      else
        match Text.decode bytes with
        | some text => .ok text
        | .none => .error s!"读取 SSH 配置 {path.path}"

/-- `fs::write` and `set_private_permissions`. -/
def writeConfig (windows : Bool) (faults : Faults) (path : ConfigPath) (file : Option Bytes)
    (bytes : Bytes) : Except String Unit × Option Bytes :=
  if faults.failing = some .openFile then (.error s!"写入 SSH 配置 {path.path}", file)
  else if faults.failing = some .write ∧ faults.cut < bytes.length then
    (.error s!"写入 SSH 配置 {path.path}", some (bytes.take faults.cut))
  else if !windows ∧ faults.failing = some .permissions then
    (.error s!"保护文件 {path.path}", some bytes)
  else (.ok (), some bytes)

def updateManagedSshConfig (windows : Bool) (faults : Faults) (path : ConfigPath)
    (file : Option Bytes) (hostBlock deviceId host : Text) : Except String Unit × Option Bytes :=
  let parent := path.parent.getD ""
  if path.parent.isSome ∧ faults.failing = some .createDir then
    (.error s!"创建 SSH 配置目录 {parent}", file)
  else
    match readConfig faults path file with
    | .error error => (.error error, file)
    | .ok existing =>
        match updatedConfig windows existing hostBlock deviceId host with
        | .error error => (.error error, file)
        | .ok updated => writeConfig windows faults path file (Text.encode updated)

/-! ## What a call writes is not what it read -/

/-- No begin marker, or an end marker behind it. -/
def Complete (text : Text) : Prop :=
  ∀ start, (normalizeLineEndings text).find managedSshBegin = some start →
    Text.find ((normalizeLineEndings text).drop (start + managedSshBegin.length)) managedSshEnd ≠ none

theorem updatedConfig_ok (windows : Bool) (text hostBlock deviceId host : Text) :
    (∃ updated, updatedConfig windows text hostBlock deviceId host = .ok updated) ↔
      Complete text := by
  unfold Complete
  cases first : (normalizeLineEndings text).find managedSshBegin with
  | none =>
      rw [updatedConfig_unmarked first]
      simp
  | some start =>
      cases last : Text.find ((normalizeLineEndings text).drop (start + managedSshBegin.length))
        managedSshEnd with
      | none =>
          rw [updatedConfig_incomplete first last]
          simp [last]
      | some endOffset =>
          obtain ⟨before, body, after, split, rfl, rfl, behind⟩ := marked_split first last
          rw [split] at first
          rw [behind] at last
          rw [updatedConfig_marked split first last]
          rw [List.append_assoc] at behind last
          simp [behind, last]

theorem mem_splitFrom {current ls : List Text} {block : Text} (member : block ∈ splitFrom current ls)
    {c : Char} (inside : c ∈ block) : c = '\n' ∨ ∃ l ∈ current ++ ls, c ∈ l := by
  fun_induction splitFrom current ls with
  | case1 => simp at member
  | case2 current begun =>
      rw [List.mem_singleton.mp member] at inside
      simpa using Text.mem_unpieces inside
  | case3 current line rest starts ih_cleared ih_begun =>
      cases List.mem_cons.mp member with
      | inl here =>
          rw [here] at inside
          have known := Text.mem_unpieces inside
          grind
      | inr later =>
          split at later
          · have known := ih_cleared later
            grind
          · have known := ih_begun later
            grind
  | case4 current line rest other white ih =>
      have known := ih member
      grind
  | case5 current line rest other solid ih =>
      have known := ih member
      grind

/-- The blocks have no character the text has not, newlines apart. -/
theorem mem_splitHostBlocks {text block : Text} (member : block ∈ splitHostBlocks text) {c : Char}
    (inside : c ∈ block) : c = '\n' ∨ c ∈ text := by
  cases mem_splitFrom member inside with
  | inl newline => exact .inl newline
  | inr other =>
      obtain ⟨l, line, there⟩ := other
      exact .inr (Text.mem_lines line there)

/-- The blocks a call writes have no carriage return. -/
theorem written_plain {body : Text} (hostBlock : Text) (keep : Text → Bool)
    (plain : ∀ c ∈ body, c ≠ '\r') :
    ∀ c ∈ (['\n', '\n'] : Text).intercalate
        ((splitHostBlocks body).filter keep ++ [(normalizeLineEndings hostBlock).trimEnd]),
      c ≠ '\r' := by
  intro c inside
  cases Text.mem_intercalate inside with
  | inl newline => grind
  | inr other =>
      obtain ⟨block, member, there⟩ := other
      cases List.mem_append.mp member with
      | inl old =>
          cases mem_splitHostBlocks (List.mem_of_mem_filter old) there with
          | inl newline =>
              rw [newline]
              decide
          | inr own => exact plain c own
      | inr new =>
          rw [List.mem_singleton.mp new] at there
          rintro rfl
          exact normalize_plain hostBlock ((List.rdropWhile_prefix _ _).subset there)

/-- A text computed for Unix has no carriage return. -/
theorem updated_plain {text hostBlock deviceId host updated : Text}
    (done : updatedConfig false text hostBlock deviceId host = .ok updated) : '\r' ∉ updated := by
  have block : '\r' ∉ (normalizeLineEndings hostBlock).trimEnd :=
    fun inside => normalize_plain hostBlock ((List.rdropWhile_prefix _ _).subset inside)
  have markers : '\r' ∉ managedSshBegin ∧ '\r' ∉ managedSshEnd := by decide
  cases updatedConfig_cases done with
  | inl first =>
      have kept : '\r' ∉ (normalizeLineEndings text).trimEnd :=
        fun inside => normalize_plain text ((List.rdropWhile_prefix _ _).subset inside)
      rw [updatedConfig_unmarked first] at done
      simp only [Bool.false_eq_true, if_false, Except.ok.injEq] at done
      rw [← done]
      split <;> simp [block, markers, kept]
  | inr marked =>
      obtain ⟨before, body, after, split, first, last⟩ := marked
      have known : '\r' ∉ before ++ managedSshBegin ++ (body ++ managedSshEnd ++ after) := by
        rw [← split]
        exact normalize_plain text
      simp only [List.mem_append, not_or] at known
      have within : ∀ c ∈ body, c ≠ '\r' := by
        rintro c own rfl
        exact known.2.1.1 own
      have blocks := written_plain hostBlock
        (fun block => !sameHost host block && !sameDevice deviceId block) within
      rw [updatedConfig_marked split first last] at done
      simp only [Bool.false_eq_true, if_false, Except.ok.injEq] at done
      rw [← done]
      simp only [List.mem_append, not_or]
      exact ⟨⟨known.1.1, ⟨⟨⟨⟨markers.1, by decide⟩, fun inside => blocks _ inside rfl⟩, by decide⟩,
        markers.2⟩, by decide⟩, known.2.2⟩

/-- On Unix no call writes back the text it read. -/
theorem updated_ne {text hostBlock deviceId host updated : Text}
    (done : updatedConfig false text hostBlock deviceId host = .ok updated) : updated ≠ text := by
  intro same
  have plain : '\r' ∉ text := by
    rw [← same]
    exact updated_plain done
  cases updatedConfig_cases done with
  | inl first =>
      rw [updatedConfig_unmarked first] at done
      simp only [Bool.false_eq_true, if_false, Except.ok.injEq, List.append_assoc] at done
      rw [Text.find_eq_none, infix_normalize (by decide) (by decide) (by decide)] at first
      apply first
      rw [← same, ← done]
      exact List.infix_append' ..
  | inr marked =>
      obtain ⟨before, body, after, split, first, last⟩ := marked
      rw [updatedConfig_marked split first last] at done
      simp only [Bool.false_eq_true, if_false, Except.ok.injEq] at done
      generalize ['\n', '\n'].intercalate _ = blocks at done
      rw [normalize_of_plain plain, ← same, ← done] at split
      -- the end marker stands three characters further on in the text that was read
      have shifted : ['\n'] ++ blocks ++ ['\n'] ++ managedSshEnd ++ '\n' :: after =
          body ++ managedSshEnd ++ after := by
        simpa using split
      have earlier : ¬ managedSshEnd <+: (body ++ managedSshEnd ++ after).drop
          (['\n'] ++ blocks ++ ['\n']).length := by
        have lengths := congrArg List.length shifted
        apply (Text.find_some last).2.2
        simp only [List.length_append, List.length_cons, List.length_nil] at lengths ⊢
        omega
      apply earlier
      rw [← shifted, List.append_assoc _ managedSshEnd, List.drop_left]
      exact List.prefix_append ..

/-- Whatever is written has a begin marker in it. -/
theorem updated_long {windows : Bool} {text hostBlock deviceId host updated : Text}
    (done : updatedConfig windows text hostBlock deviceId host = .ok updated) :
    2 ≤ (Text.encode updated).length := by
  have written (t : Text) (marked : managedSshBegin <:+: t) :
      2 ≤ (Text.encode (if windows then t.replace ['\n'] ['\r', '\n'] else t)).length := by
    have long : 32 ≤ t.length := marked.length_le
    refine le_trans ?_ (Text.length_encode _)
    cases windows with
    | false =>
        rw [if_neg (by simp)]
        omega
    | true =>
        have grows := t.length_le_replace_char '\n' ['\r', '\n'] (by decide)
        rw [if_pos rfl]
        omega
  cases updatedConfig_cases done with
  | inl first =>
      rw [updatedConfig_unmarked first] at done
      cases done
      apply written
      simp only [List.append_assoc]
      exact List.infix_append' ..
  | inr marked =>
      obtain ⟨before, body, after, split, first, last⟩ := marked
      rw [updatedConfig_marked split first last] at done
      cases done
      apply written
      simp only [List.append_assoc]
      exact List.infix_append' ..

/-! ## The failures the file survives -/

/-- If the call fails, wherever a failing write was cut, the file is as it was. -/
def Survives (windows : Bool) (failing : Option Step) (path : ConfigPath) (file : Option Bytes)
    (hostBlock deviceId host : Text) : Prop :=
  ∀ cut error,
    (updateManagedSshConfig windows ⟨failing, cut⟩ path file hostBlock deviceId host).1 =
      .error error →
    (updateManagedSshConfig windows ⟨failing, cut⟩ path file hostBlock deviceId host).2 = file

/-- The step comes after the file is opened. -/
def Late (windows : Bool) (failing : Option Step) : Prop :=
  failing = some .write ∨ (windows = false ∧ failing = some .permissions)

/-- The text of a config that can be read; no file is an empty one. -/
def existingText (file : Option Bytes) : Option Text :=
  match file with
  | none => some []
  | some bytes => Text.decode bytes

/-- A call that gets past the reading. -/
def Writes (file : Option Bytes) : Prop := ∃ text, existingText file = some text ∧ Complete text

theorem readConfig_ok {faults : Faults} (path : ConfigPath) {file : Option Bytes}
    (readable : faults.failing ≠ some .read) (text : Text) :
    readConfig faults path file = .ok text ↔ existingText file = some text := by
  cases file with
  | none => simp [readConfig, existingText]
  | some bytes =>
      cases decoded : Text.decode bytes with
      | none => simp [readConfig, existingText, readable, decoded]
      | some t => simp [readConfig, existingText, readable, decoded]

theorem updateManagedSshConfig_ok {windows : Bool} {path : ConfigPath} {file : Option Bytes}
    {existing updated hostBlock deviceId host : Text} (read : existingText file = some existing)
    (done : updatedConfig windows existing hostBlock deviceId host = .ok updated) :
    updateManagedSshConfig windows ⟨none, 0⟩ path file hostBlock deviceId host =
      (.ok (), some (Text.encode updated)) := by
  rw [updateManagedSshConfig, if_neg (by simp), (readConfig_ok path (by simp) existing).mpr read]
  simp [done, writeConfig]

/-- A failing call that does not write leaves the file. -/
theorem unwritten {windows : Bool} {faults : Faults} {path : ConfigPath} {file : Option Bytes}
    {hostBlock deviceId host : Text} {error : String}
    (failed : (updateManagedSshConfig windows faults path file hostBlock deviceId host).1 =
      .error error) (early : ¬ (Late windows faults.failing ∧ Writes file)) :
    (updateManagedSshConfig windows faults path file hostBlock deviceId host).2 = file := by
  unfold updateManagedSshConfig at failed ⊢
  split
  · rfl
  · rename_i dir
    rw [if_neg dir] at failed
    cases read : readConfig faults path file with
    | error message => rfl
    | ok existing =>
        rw [read] at failed
        simp only at failed ⊢
        cases done : updatedConfig windows existing hostBlock deviceId host with
        | error message => rfl
        | ok updated =>
            rw [done] at failed
            simp only [writeConfig] at failed ⊢
            split
            · rfl
            · rename_i opened
              rw [if_neg opened] at failed
              have not_late : ¬ Late windows faults.failing := by
                intro late
                apply early ⟨late, existing, ?_, (updatedConfig_ok ..).mp ⟨updated, done⟩⟩
                apply (readConfig_ok path ?_ existing).mp read
                intro reading
                rw [reading] at late
                cases late with
                | inl write => cases write
                | inr permissions => cases permissions.2
              simp only [Late, not_or, not_and] at not_late
              rw [if_neg (by simp [not_late.1]), if_neg (by simpa using not_late.2)] at failed
              cases failed

section

variable {windows : Bool} {path : ConfigPath} {file : Option Bytes} {hostBlock deviceId host : Text}

/-- A call that gets past the reading and fails later writes the file. -/
theorem late_written {faults : Faults} {existing updated : Text} (late : Late windows faults.failing)
    (read : existingText file = some existing)
    (done : updatedConfig windows existing hostBlock deviceId host = .ok updated) :
    updateManagedSshConfig windows faults path file hostBlock deviceId host =
      writeConfig windows faults path file (Text.encode updated) := by
  have not_dir : ¬ (path.parent.isSome ∧ faults.failing = some .createDir) := by
    intro dir
    rw [dir.2] at late
    simp [Late] at late
  have readable : faults.failing ≠ some .read := by
    intro reading
    rw [reading] at late
    simp [Late] at late
  rw [updateManagedSshConfig, if_neg not_dir, (readConfig_ok path readable existing).mpr read]
  simp only [done]

/-- **The config survives a failed call exactly if the failing step is neither the write nor
the permission change, or the call ends before them.** -/
theorem config_survives (failing : Option Step) :
    Survives windows failing path file hostBlock deviceId host ↔
      ¬ (Late windows failing ∧ Writes file) := by
  constructor
  · rintro survives ⟨late, existing, read, complete⟩
    obtain ⟨updated, done⟩ := (updatedConfig_ok windows existing hostBlock deviceId host).mpr complete
    have long := updated_long done
    have written (cut : Nat) : updateManagedSshConfig windows ⟨failing, cut⟩ path file hostBlock
        deviceId host = writeConfig windows ⟨failing, cut⟩ path file (Text.encode updated) :=
      late_written late read done
    cases late with
    | inl write =>
        subst write
        have cut_file (cut : Nat) (short : cut < 2) :
            some ((Text.encode updated).take cut) = file := by
          have inside : cut < (Text.encode updated).length := by omega
          have result := written cut
          simp only [writeConfig, reduceCtorEq, if_false, Option.some.injEq, true_and, inside,
            if_true] at result
          have left := survives cut _ (congrArg Prod.fst result)
          rwa [result] at left
        have same := (cut_file 0 (by omega)).trans (cut_file 1 (by omega)).symm
        have lengths := congrArg List.length (Option.some.inj same)
        simp only [List.length_take] at lengths
        omega
    | inr permissions =>
        obtain ⟨rfl, rfl⟩ := permissions
        have result := written 0
        simp only [writeConfig, reduceCtorEq, if_false, Option.some.injEq, false_and, Bool.not_false,
          and_self, if_true] at result
        have left := survives 0 _ (congrArg Prod.fst result)
        rw [result] at left
        rw [← left] at read
        simp only [existingText, Text.decode_encode, Option.some.injEq] at read
        exact updated_ne done read
  · intro early cut error failed
    exact unwritten failed early

end

/-- A config with one host of the user's. -/
def userConfig : Option Bytes := some (Text.encode "Host work\n\tUser me\n".toList)

def userPath : ConfigPath := ⟨"/home/me/.ssh/config", some "/home/me/.ssh"⟩

def deskBlock : Text := "Host desk\n\tHostKeyAlias desk\n".toList

/-- A full disk empties the config, and a failed permission change leaves it rewritten. -/
theorem config_lost :
    updateManagedSshConfig false ⟨some .write, 0⟩ userPath userConfig deskBlock "desk".toList
        "desk".toList = (.error "写入 SSH 配置 /home/me/.ssh/config", some []) ∧
      ¬ Survives false (some .write) userPath userConfig deskBlock "desk".toList "desk".toList ∧
      ¬ Survives false (some .permissions) userPath userConfig deskBlock "desk".toList
        "desk".toList := by
  have emptied : updateManagedSshConfig false ⟨some .write, 0⟩ userPath userConfig deskBlock
      "desk".toList "desk".toList = (.error "写入 SSH 配置 /home/me/.ssh/config", some []) := by
    decide +kernel
  have exposed : (updateManagedSshConfig false ⟨some .permissions, 0⟩ userPath userConfig deskBlock
      "desk".toList "desk".toList).1 = .error "保护文件 /home/me/.ssh/config" := by
    decide +kernel
  refine ⟨emptied, ?_, ?_⟩
  · intro survives
    have same := survives 0 _ (congrArg Prod.fst emptied)
    rw [emptied] at same
    exact absurd same (by decide +kernel)
  · intro survives
    exact absurd (survives 0 _ exposed) (by decide +kernel)

end RustSsh.Desktop
