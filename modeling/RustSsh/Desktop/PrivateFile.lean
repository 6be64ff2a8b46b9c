/-
# Desktop.PrivateFile -- settings are replaced as a whole

`write_private_file` of `src/desktop.rs`, through which every settings file is written: a temporary
file beside it, written and then renamed over it.  Any number of processes save at once, each one
file at a time; a call may fail at any of its system calls, write in pieces, or be cut off when its
process dies.  The name of the temporary file has the id of the process in it; the rest of it,
the nanoseconds since an instant that was just taken, tells nothing apart.

`saves_are_atomic`: what a settings file holds is always what the last rename put there, all of it.
`readers_see_one_version`: a file that was once behind such a name is never written again.
-/
import RustSsh.Theory.Volume
import RustSsh.Theory.Run
import RustSsh.Server.Identity

namespace RustSsh.Desktop

open RustSsh.Theory RustSsh.Server

set_option autoImplicit false

/-! ## The source -/

/-- The temporary file of a call in process `pid`. -/
def temporaryName (name : Text) (pid nanos : Nat) : Text :=
  name ++ ".tmp-".toList ++ Nat.toDigits 10 pid ++ '-' :: Nat.toDigits 10 nanos

/-- Where a call of `write_private_file` is; files are named by their handles. -/
inductive SaveStage where
  | opening
  | writing (file written : Nat)
  | flushing (file : Nat)
  | replacing (file : Nat)
  | removing (error : String)
  | returned (result : Except String Unit)
  deriving DecidableEq, Repr

def SaveStage.file : SaveStage → Option Nat
  | .writing file _ => some file
  | .flushing file => some file
  | .replacing file => some file
  | .opening | .removing _ | .returned _ => none

structure Save where
  name : Text
  bytes : Bytes
  temporary : Text
  stage : SaveStage
  deriving DecidableEq, Repr

/-- The processes, by their ids, with the last call of each, and the renames that were done. -/
structure Saves where
  volume : Volume Text Stored
  calls : Nat → Option Save
  puts : List (Text × Bytes)

/-- `write` at an offset. -/
def writeAt (old : Bytes) (offset : Nat) (chunk : Bytes) : Bytes :=
  old.take offset ++ List.replicate (offset - old.length) 0 ++ chunk ++
    old.drop (offset + chunk.length)

/-- `open` with `create` and `truncate`; the mode is for a new file. -/
def openTemporary (v : Volume Text Stored) (name : Text) : Volume Text Stored × Nat :=
  match v.link name with
  | some file => (v.put file { v.content file with bytes := [] }, file)
  | none => v.create name ⟨0o600, []⟩

/-- What happens in a process. -/
inductive SaveAct where
  /-- `path.file_name()`, if it is a name -/
  | call (name : Option Text) (bytes : Bytes) (nanos : Nat)
  | openFile (ok : Bool)
  | write (count : Nat)
  | writeFails
  /-- `write_all` has written everything -/
  | written
  | flush (ok : Bool)
  | rename (ok : Bool)
  | remove (ok : Bool)
  | dies
  deriving DecidableEq, Repr

namespace Saves

variable (directory : String)

def path (name : Text) : String := directory ++ "/" ++ String.ofList name

/-- The call of process `pid` goes on to `stage`. -/
def goes (s : Saves) (pid : Nat) (c : Save) (stage : SaveStage) : Saves :=
  { s with calls := Function.update s.calls pid (some { c with stage }) }

/-- A call makes its next system call. -/
def stepCall (s : Saves) (pid : Nat) (c : Save) : SaveAct → Option Saves
  | .openFile ok =>
      if c.stage = .opening then
        if ok then
          let (volume, file) := openTemporary s.volume c.temporary
          some ({ s with volume }.goes pid c (.writing file 0))
        else some (s.goes pid c (.removing s!"创建临时文件 {path directory c.temporary}"))
      else none
  | .write count =>
      match c.stage with
      | .writing file written =>
          if 0 < count ∧ written + count ≤ c.bytes.length then
            let old := s.volume.content file
            let bytes := writeAt old.bytes written ((c.bytes.drop written).take count)
            some ({ s with volume := s.volume.put file { old with bytes } }.goes pid c
              (.writing file (written + count)))
          else none
      | _ => none
  | .writeFails =>
      match c.stage with
      | .writing _ written =>
          if written < c.bytes.length then
            some (s.goes pid c (.removing s!"写入临时文件 {path directory c.temporary}"))
          else none
      | _ => none
  | .written =>
      match c.stage with
      | .writing file written =>
          if written = c.bytes.length then some (s.goes pid c (.flushing file)) else none
      | _ => none
  | .flush ok =>
      match c.stage with
      | .flushing file =>
          if ok then some (s.goes pid c (.replacing file))
          else some (s.goes pid c (.removing s!"写入临时文件 {path directory c.temporary}"))
      | _ => none
  | .rename ok =>
      match c.stage with
      | .replacing _ =>
          if ok then
            if s.volume.link c.temporary = none then none
            else
              some ({ s with
                volume := s.volume.move c.temporary c.name
                puts := s.puts ++ [(c.name, c.bytes)] }.goes pid c (.returned (.ok ())))
          else some (s.goes pid c (.removing s!"替换配置文件 {path directory c.name}"))
      | _ => none
  | .remove ok =>
      match c.stage with
      | .removing error =>
          let volume := if ok then s.volume.remove c.temporary else s.volume
          some ({ s with volume }.goes pid c (.returned (.error error)))
      | _ => none
  | .call _ _ _ => none
  | .dies => none

/-- A process that is not in a call. -/
def idle (s : Saves) (pid : Nat) : Bool :=
  match s.calls pid with
  | none => true
  | some c =>
      match c.stage with
      | .returned _ => true
      | _ => false

def step (s : Saves) : Nat × SaveAct → Option Saves
  | (pid, .call name bytes nanos) =>
      if s.idle pid then
        match name with
        | none =>
            some (s.goes pid ⟨[], bytes, [], .opening⟩ (.returned (.error "配置文件路径无效")))
        | some name => some (s.goes pid ⟨name, bytes, temporaryName name pid nanos, .opening⟩ .opening)
      else none
  | (pid, .dies) =>
      -- the id is free for another process
      some { s with calls := Function.update s.calls pid none }
  | (pid, act) =>
      match s.calls pid with
      | some c => s.stepCall directory pid c act
      | none => none

end Saves

/-! ## Names -/

/-- The text behind the last separator. -/
theorem split_last {c : Char} {front front' back back' : Text} (fresh : c ∉ back)
    (fresh' : c ∉ back') (same : front ++ c :: back = front' ++ c :: back') :
    front = front' ∧ back = back' := by
  rcases List.append_eq_append_iff.mp same with ⟨middle, rfl, tail⟩ | ⟨middle, rfl, tail⟩
  · cases middle with
    | nil => exact ⟨(List.append_nil _).symm, (List.cons.inj tail).2⟩
    | cons first rest =>
        have behind : back = rest ++ c :: back' := (List.cons.inj tail).2
        exact absurd (by rw [behind]; simp) fresh
  · cases middle with
    | nil => exact ⟨List.append_nil _, (List.cons.inj tail).2.symm⟩
    | cons first rest =>
        have behind : back' = rest ++ c :: back := (List.cons.inj tail).2
        exact absurd (by rw [behind]; simp) fresh'

theorem dash_notMem_digits (n : Nat) : '-' ∉ Nat.toDigits 10 n := by
  intro inside
  have digit := Nat.isDigit_of_mem_toDigits (by decide) (by decide) inside
  exact absurd digit (by decide)

theorem digits_inj {m n : Nat} (same : Nat.toDigits 10 m = Nat.toDigits 10 n) : m = n := by
  rw [← Nat.ofDigitChars_ten_toDigits (n := m), same, Nat.ofDigitChars_ten_toDigits]

/-- The id of the process can be read off the name. -/
theorem temporaryName_pid {name name' : Text} {pid pid' nanos nanos' : Nat}
    (same : temporaryName name pid nanos = temporaryName name' pid' nanos') : pid = pid' := by
  have outer := (split_last (dash_notMem_digits nanos) (dash_notMem_digits nanos') same).1
  have shape : ∀ (name : Text) (pid : Nat), name ++ ".tmp-".toList ++ Nat.toDigits 10 pid =
      (name ++ ".tmp".toList) ++ '-' :: Nat.toDigits 10 pid := fun name pid => by simp
  rw [shape, shape] at outer
  exact digits_inj (split_last (dash_notMem_digits pid) (dash_notMem_digits pid') outer).2

/-- A name that no temporary file has. -/
def Lasting (name : Text) : Prop := ∀ other pid nanos, name ≠ temporaryName other pid nanos

/-- A temporary name ends in a digit. -/
theorem lasting_of_last {name : Text} {c : Char} (last : name.getLast? = some c)
    (letter : c.isDigit = false) : Lasting name := by
  rintro other pid nanos rfl
  have digits : (Nat.toDigits 10 nanos).getLast? = some c := by
    rw [temporaryName, List.getLast?_append_of_ne_nil _ (by simp)] at last
    rwa [List.getLast?_cons_of_ne_nil Nat.toDigits_ne_nil] at last
  have digit := Nat.isDigit_of_mem_toDigits (by decide) (by decide)
    (List.mem_of_getLast? digits)
  rw [letter] at digit
  cases digit

/-- The files that are saved: by `save` of the two windows and by `write_setup_code_file`. -/
theorem lasting_saved : Lasting "client.json".toList ∧ Lasting "connect.json".toList ∧
    Lasting "connect.setup".toList :=
  ⟨lasting_of_last (c := 'n') rfl rfl, lasting_of_last (c := 'n') rfl rfl,
    lasting_of_last (c := 'p') rfl rfl⟩

/-! ## A step of a call -/

/-- A call changes the volume under its temporary name only; it makes private files. -/
structure Changes (v v' : Volume Text Stored) (name : Text) : Prop where
  spares : v.Spares v' (· = name)
  grows : v.fresh ≤ v'.fresh
  old : ∀ other i, i < v.fresh → v'.link other = some i → v.link other = some i
  kept : ∀ i, i < v.fresh → v.link name ≠ some i → v'.content i = v.content i
  mode : ∀ file, v'.read name = some file →
    file.mode = 0o600 ∨ ∃ before, v.read name = some before ∧ before.mode = file.mode

section

variable {v : Volume Text Stored} {name : Text}

theorem changes_refl (v : Volume Text Stored) (name : Text) : Changes v v name where
  spares _ _ := ⟨rfl, fun _ _ => rfl⟩
  grows := Nat.le_refl _
  old _ _ _ := id
  kept _ _ _ := rfl
  mode file there := .inr ⟨file, there, rfl⟩

theorem changes_put {i : Nat} (linked : v.link name = some i) (bytes : Bytes) :
    Changes v (v.put i { v.content i with bytes }) name where
  spares := Volume.spares_put linked _
  grows := Nat.le_refl _
  old _ _ _ := id
  kept j _ other := v.put_content_ne _ fun same => other (same ▸ linked)
  mode file there := by
    have linked' : (v.put i { v.content i with bytes }).link name = some i := linked
    rw [Volume.read_of_link linked', Volume.put_content_self] at there
    cases there
    exact .inr ⟨v.content i, Volume.read_of_link linked, rfl⟩

theorem changes_create (free : v.link name = none) :
    Changes v (v.create name ⟨0o600, []⟩).1 name where
  spares := v.spares_create name _
  grows := Nat.le_succ _
  old other i small linked := by
    by_cases own : other = name
    · subst own
      rw [Volume.create_link_self] at linked
      cases linked
      exact absurd small (Nat.lt_irrefl _)
    · rwa [v.create_link_ne _ own] at linked
  kept i small _ := v.create_content_ne name _ (Nat.ne_of_lt small)
  mode file there := by
    rw [Volume.read_of_link (v.create_link_self name _), Volume.create_content_self] at there
    cases there
    exact .inl rfl

theorem changes_remove (v : Volume Text Stored) (name : Text) :
    Changes v (v.remove name) name where
  spares := v.spares_remove name
  grows := Nat.le_refl _
  old other i _ linked := by
    rw [Volume.remove_link] at linked
    split at linked
    · cases linked
    · exact linked
  kept _ _ _ := rfl
  mode file there := by
    rw [Volume.read, Volume.remove_link, if_pos rfl] at there
    cases there

theorem openTemporary_changes (v : Volume Text Stored) (name : Text) :
    Changes v (openTemporary v name).1 name ∧
      (openTemporary v name).1.link name = some (openTemporary v name).2 ∧
        ((openTemporary v name).1.content (openTemporary v name).2).bytes = [] := by
  unfold openTemporary
  split
  · rename_i file linked
    exact ⟨changes_put linked [], linked, by simp⟩
  · rename_i free
    exact ⟨changes_create free, v.create_link_self name _, by simp⟩

end

/-- How much of the bytes is in the temporary file. -/
def SaveStage.done (size : Nat) : SaveStage → Nat
  | .writing _ written => written
  | .flushing _ => size
  | .replacing _ => size
  | .opening | .removing _ | .returned _ => 0

def SaveStage.running : SaveStage → Bool
  | .returned _ => false
  | _ => true

/-- What a call that has not returned has done: its temporary file holds the front of its bytes. -/
structure Holds (v : Volume Text Stored) (pid : Nat) (c : Save) : Prop where
  lasting : Lasting c.name
  temporary : ∃ nanos, c.temporary = temporaryName c.name pid nanos
  linked : ∀ file, c.stage.file = some file → v.link c.temporary = some file
  bytes : ∀ file, c.stage.file = some file →
    (v.content file).bytes = c.bytes.take (c.stage.done c.bytes.length)
  small : c.stage.done c.bytes.length ≤ c.bytes.length

namespace Holds

variable {v v' : Volume Text Stored} {pid : Nat} {c : Save}

/-- Another call does not touch it. -/
theorem frame {touched : Text → Prop} (holds : Holds v pid c) (spares : v.Spares v' touched)
    (apart : ¬ touched c.temporary) : Holds v' pid c where
  lasting := holds.lasting
  temporary := holds.temporary
  linked file has := by
    rw [(spares c.temporary apart).1]
    exact holds.linked file has
  bytes file has := by
    rw [(spares c.temporary apart).2 file (holds.linked file has)]
    exact holds.bytes file has
  small := holds.small

/-- Without a file. -/
theorem closed (holds : Holds v pid c) {stage : SaveStage} (no : stage.file = none)
    (none : stage.done c.bytes.length = 0) : Holds v' pid { c with stage } where
  lasting := holds.lasting
  temporary := holds.temporary
  linked file has := by
    rw [show ({ c with stage } : Save).stage.file = stage.file from rfl, no] at has
    cases has
  bytes file has := by
    rw [show ({ c with stage } : Save).stage.file = stage.file from rfl, no] at has
    cases has
  small := by
    show stage.done c.bytes.length ≤ c.bytes.length
    omega

/-- With this one. -/
theorem holding (holds : Holds v pid c) {stage : SaveStage} {file : Nat}
    (has : stage.file = some file) (linked : v'.link c.temporary = some file)
    (bytes : (v'.content file).bytes = c.bytes.take (stage.done c.bytes.length))
    (small : stage.done c.bytes.length ≤ c.bytes.length) : Holds v' pid { c with stage } where
  lasting := holds.lasting
  temporary := holds.temporary
  linked other same := by
    obtain rfl : file = other := Option.some.inj (has.symm.trans same)
    exact linked
  bytes other same := by
    obtain rfl : file = other := Option.some.inj (has.symm.trans same)
    exact bytes
  small := small

end Holds

/-- A write behind what is there already appends. -/
theorem writeAt_take {bytes : Bytes} {written count : Nat}
    (fits : written + count ≤ bytes.length) :
    writeAt (bytes.take written) written ((bytes.drop written).take count) =
      bytes.take (written + count) := by
  have here : (bytes.take written).length = written := by
    rw [List.length_take]
    omega
  have more : ((bytes.drop written).take count).length = count := by
    rw [List.length_take, List.length_drop]
    omega
  have beyond : (bytes.take written).drop (written + count) = [] :=
    List.drop_eq_nil_of_le (by omega)
  rw [writeAt, here, more, beyond, Nat.sub_self, List.replicate_zero, List.append_nil,
    List.append_nil, List.take_take, Nat.min_self, List.take_add]

namespace Saves

/-- The steps of a call, each with the state it leads to. -/
inductive CallRule (s : Saves) (pid : Nat) (c : Save) : Saves → Prop where
  | goes (volume : Volume Text Stored) (stage : SaveStage) (running : c.stage.running = true)
      (changes : Changes s.volume volume c.temporary)
      (next : stage.running = true → Holds volume pid { c with stage }) :
      CallRule s pid c ({ s with volume }.goes pid c stage)
  | renames (file : Nat) (here : c.stage = .replacing file) :
      CallRule s pid c ({ s with
        volume := s.volume.move c.temporary c.name
        puts := s.puts ++ [(c.name, c.bytes)] }.goes pid c (.returned (.ok ())))

variable {directory : String} {s s' : Saves} {pid : Nat} {c : Save}

/-- A system call that fails. -/
theorem fails_rule (holds : Holds s.volume pid c) (running : c.stage.running = true)
    (error : String) : s.CallRule pid c (s.goes pid c (.removing error)) :=
  .goes s.volume (.removing error) running (changes_refl _ _) fun _ => holds.closed rfl rfl

/-- A stage that has written everything. -/
theorem whole_rule (holds : Holds s.volume pid c) (running : c.stage.running = true)
    {stage : SaveStage} {file : Nat} (had : c.stage.file = some file)
    (all : c.stage.done c.bytes.length = c.bytes.length) (has : stage.file = some file)
    (whole : stage.done c.bytes.length = c.bytes.length) :
    s.CallRule pid c (s.goes pid c stage) := by
  refine .goes s.volume stage running (changes_refl _ _) fun _ => ?_
  refine holds.holding has (holds.linked file had) ?_ (by rw [whole])
  rw [whole, ← all]
  exact holds.bytes file had

theorem open_rule (holds : Holds s.volume pid c) (opening : c.stage = .opening) :
    s.CallRule pid c ({ s with volume := (openTemporary s.volume c.temporary).1 }.goes pid c
      (.writing (openTemporary s.volume c.temporary).2 0)) := by
  obtain ⟨changes, linked, empty⟩ := openTemporary_changes s.volume c.temporary
  refine .goes _ (.writing _ 0) (by rw [opening]; rfl) changes fun _ => ?_
  exact holds.holding rfl linked (by rw [empty]; rfl) (Nat.zero_le _)

theorem write_rule (holds : Holds s.volume pid c) {file written count : Nat}
    (here : c.stage = .writing file written) (fits : written + count ≤ c.bytes.length) :
    s.CallRule pid c ({ s with
      volume := s.volume.put file { s.volume.content file with
        bytes := writeAt (s.volume.content file).bytes written
          ((c.bytes.drop written).take count) } }.goes pid c (.writing file (written + count))) := by
  have linked := holds.linked file (by rw [here]; rfl)
  have bytes := holds.bytes file (by rw [here]; rfl)
  rw [here, SaveStage.done] at bytes
  refine .goes _ (.writing file (written + count)) (by rw [here]; rfl) (changes_put linked _)
    fun _ => holds.holding rfl linked ?_ fits
  rw [Volume.put_content_self, bytes]
  exact writeAt_take fits

/-- Only a call that has not returned makes steps. -/
theorem stepCall_running {act : SaveAct} (taken : s.stepCall directory pid c act = some s') :
    c.stage.running = true := by
  cases here : c.stage with
  | returned result => cases act <;> simp [stepCall, here] at taken
  | opening | writing | flushing | replacing | removing => rfl

theorem stepCall_rule {act : SaveAct} (holds : Holds s.volume pid c)
    (taken : s.stepCall directory pid c act = some s') : s.CallRule pid c s' := by
  have running := stepCall_running taken
  cases act with
  | call | dies => cases taken
  | openFile ok =>
      simp only [stepCall] at taken
      split at taken
      · rename_i opening
        cases ok <;> cases taken
        · exact fails_rule holds running _
        · exact open_rule holds opening
      · cases taken
  | write count =>
      simp only [stepCall] at taken
      split at taken
      · rename_i file written here
        split at taken <;> cases taken
        rename_i fits
        exact write_rule holds here fits.2
      · cases taken
  | writeFails =>
      simp only [stepCall] at taken
      split at taken
      · split at taken <;> cases taken
        exact fails_rule holds running _
      · cases taken
  | written =>
      simp only [stepCall] at taken
      split at taken
      · rename_i file written here
        split at taken <;> cases taken
        rename_i all
        exact whole_rule holds running (by rw [here]; rfl) (by rw [here]; exact all) rfl rfl
      · cases taken
  | flush ok =>
      simp only [stepCall] at taken
      split at taken
      · rename_i file here
        cases ok <;> cases taken
        · exact fails_rule holds running _
        · exact whole_rule holds running (by rw [here]; rfl) (by rw [here]; rfl) rfl rfl
      · cases taken
  | rename ok =>
      simp only [stepCall] at taken
      split at taken
      · rename_i file here
        cases ok
        · cases taken
          exact fails_rule holds running _
        · simp only [if_true] at taken
          split at taken <;> cases taken
          exact .renames file here
      · cases taken
  | remove ok =>
      simp only [stepCall] at taken
      split at taken
      · rename_i error here
        cases taken
        refine .goes _ (.returned (.error error)) running ?_ fun never => by cases never
        cases ok
        · exact changes_refl _ _
        · exact changes_remove _ _
      · cases taken

end Saves

/-! ## Any number of processes -/

/-- What the names hold when each put replaces a value at once. -/
def register (v : Volume Text Stored) (puts : List (Text × Bytes)) : Text → Option Bytes :=
  puts.foldl (fun held put => Function.update held put.1 (some put.2))
    fun name => (v.read name).map Stored.bytes

@[simp] theorem register_snoc (v : Volume Text Stored) (puts : List (Text × Bytes))
    (put : Text × Bytes) :
    register v (puts ++ [put]) = Function.update (register v puts) put.1 (some put.2) := by
  rw [register, List.foldl_append]
  rfl

/-- A call is for a settings file. -/
def SavesSettings : Nat × SaveAct → Prop
  | (_, .call (some name) _ _) => Lasting name
  | _ => True

/-- The temporary files that earlier processes have left are private. -/
def PrivateLeftovers (v : Volume Text Stored) : Prop :=
  ∀ name file, ¬ Lasting name → v.read name = some file → file.mode = 0o600

/-- What holds of the volume that was `v` when the first process began. -/
structure Saves.Sound (v : Volume Text Stored) (s : Saves) : Prop where
  calls : ∀ pid c, s.calls pid = some c → c.stage.running = true → Holds s.volume pid c
  value : ∀ name, Lasting name → (s.volume.read name).map Stored.bytes = register v s.puts name
  mode : PrivateLeftovers v → ∀ name file, s.volume.read name = some file →
    v.read name = some file ∨ file.mode = 0o600

namespace Saves

variable {directory : String} {v : Volume Text Stored} {s s' : Saves} {pid : Nat} {c : Save}

def start (v : Volume Text Stored) : Saves := ⟨v, fun _ => none, []⟩

theorem sound_start (v : Volume Text Stored) : (start v).Sound v where
  calls _ _ never := by cases never
  value _ _ := rfl
  mode _ _ _ there := .inl there

theorem not_lasting (holds : Holds s.volume pid c) : ¬ Lasting c.temporary := by
  obtain ⟨nanos, temporary⟩ := holds.temporary
  exact fun lasting => lasting _ _ _ temporary

/-- Two processes have two temporary files. -/
theorem temporary_ne {other : Nat} {d : Save} (holds : Holds s.volume pid c)
    (also : Holds s.volume other d) (apart : other ≠ pid) : d.temporary ≠ c.temporary := by
  obtain ⟨nanos, temporary⟩ := holds.temporary
  obtain ⟨nanos', temporary'⟩ := also.temporary
  intro same
  exact apart (temporaryName_pid (temporary'.symm.trans (same.trans temporary)))

theorem Sound.goes (sound : s.Sound v) (holds : Holds s.volume pid c)
    {volume : Volume Text Stored} {stage : SaveStage} (changes : Changes s.volume volume c.temporary)
    (next : stage.running = true → Holds volume pid { c with stage }) :
    Sound v ({ s with volume }.goes pid c stage) where
  calls other d there running := by
    rcases eq_or_ne other pid with rfl | apart
    · have same : { c with stage } = d := by simpa [Saves.goes] using there
      subst same
      exact next running
    · have before : s.calls other = some d := by
        simpa [Saves.goes, Function.update_of_ne apart] using there
      have also := sound.calls other d before running
      exact also.frame changes.spares (temporary_ne holds also apart)
  value name lasting := by
    have apart : name ≠ c.temporary := fun same => not_lasting holds (same ▸ lasting)
    show (volume.read name).map Stored.bytes = register v s.puts name
    rw [changes.spares.read apart]
    exact sound.value name lasting
  mode leftovers name file there := by
    have there : volume.read name = some file := there
    by_cases own : name = c.temporary
    · subst own
      right
      rcases changes.mode file there with isPrivate | ⟨before, had, same⟩
      · exact isPrivate
      · rw [← same]
        rcases sound.mode leftovers _ before had with old | isPrivate
        · exact leftovers _ before (not_lasting holds) old
        · exact isPrivate
    · rw [changes.spares.read own] at there
      exact sound.mode leftovers name file there

theorem Sound.renames (sound : s.Sound v)
    (holds : Holds s.volume pid c) {file : Nat} (here : c.stage = .replacing file) :
    Sound v ({ s with
      volume := s.volume.move c.temporary c.name
      puts := s.puts ++ [(c.name, c.bytes)] }.goes pid c (.returned (.ok ()))) where
  calls other d there running := by
    rcases eq_or_ne other pid with rfl | apart
    · have same : { c with stage := .returned (.ok ()) } = d := by simpa [Saves.goes] using there
      subst same
      cases running
    · have before : s.calls other = some d := by
        simpa [Saves.goes, Function.update_of_ne apart] using there
      have also := sound.calls other d before running
      refine also.frame (s.volume.spares_move c.temporary c.name) ?_
      rintro (same | same)
      · exact temporary_ne holds also apart same
      · exact not_lasting also (same ▸ holds.lasting)
  value name lasting := by
    show ((s.volume.move c.temporary c.name).read name).map Stored.bytes =
      register v (s.puts ++ [(c.name, c.bytes)]) name
    rw [Volume.read_move, register_snoc]
    by_cases own : name = c.name
    · subst own
      have linked := holds.linked file (by rw [here]; rfl)
      have bytes := holds.bytes file (by rw [here]; rfl)
      rw [here, SaveStage.done, List.take_length] at bytes
      rw [if_pos rfl, Function.update_self, Volume.read_of_link linked, Option.map_some, bytes]
    · have apart : name ≠ c.temporary := fun same => not_lasting holds (same ▸ lasting)
      rw [if_neg own, if_neg apart, Function.update_of_ne own]
      exact sound.value name lasting
  mode leftovers name found there := by
    have there : (s.volume.move c.temporary c.name).read name = some found := there
    rw [Volume.read_move] at there
    split at there
    · right
      rcases sound.mode leftovers _ found there with old | isPrivate
      · exact leftovers _ found (not_lasting holds) old
      · exact isPrivate
    · split at there
      · cases there
      · exact sound.mode leftovers name found there

/-- A process begins a call, or dies. -/
theorem Sound.enters (sound : s.Sound v) {call : Option Save}
    (next : ∀ c, call = some c → c.stage.running = true → Holds s.volume pid c) :
    Sound v { s with calls := Function.update s.calls pid call } where
  calls other d there running := by
    rcases eq_or_ne other pid with rfl | apart
    · exact next d (by simpa using there) running
    · exact sound.calls other d (by simpa [Function.update_of_ne apart] using there) running
  value := sound.value
  mode := sound.mode

/-- The steps of the processes. -/
inductive Rule (s : Saves) : Saves → Prop where
  | enters (pid : Nat) (call : Option Save)
      (next : ∀ c, call = some c → c.stage.running = true → Holds s.volume pid c) :
      Rule s { s with calls := Function.update s.calls pid call }
  | call (pid : Nat) (c : Save) (s' : Saves) (holds : Holds s.volume pid c)
      (rule : s.CallRule pid c s') : Rule s s'

theorem step_rule {a : Nat × SaveAct} (sound : s.Sound v) (settings : SavesSettings a)
    (taken : step directory s a = some s') : s.Rule s' := by
  unfold step at taken
  split at taken
  · rename_i pid name bytes nanos
    split at taken
    · split at taken
      · cases taken
        refine .enters pid _ fun c same running => ?_
        cases same
        cases running
      · rename_i name
        cases taken
        refine .enters pid _ fun c same _ => ?_
        cases same
        exact ⟨settings, ⟨nanos, rfl⟩, fun file never => (by cases never),
          fun file never => (by cases never), Nat.zero_le _⟩
    · cases taken
  · rename_i pid
    cases taken
    exact .enters pid none fun c never => by cases never
  · rename_i pid act _ _
    split at taken
    · rename_i c here
      have holds := sound.calls pid c here (stepCall_running taken)
      exact .call pid c s' holds (stepCall_rule holds taken)
    · cases taken

theorem Sound.rule (sound : s.Sound v) (taken : s.Rule s') : s'.Sound v := by
  cases taken with
  | enters pid call next => exact sound.enters next
  | call pid c _ holds rule =>
      cases rule with
      | goes volume stage running changes next => exact sound.goes holds changes next
      | renames file here => exact sound.renames holds here

theorem run_sound {acts : List (Nat × SaveAct)} (settings : ∀ a ∈ acts, SavesSettings a)
    (run : exec (step directory) s acts = some s') (sound : s.Sound v) : s'.Sound v :=
  exec_preserves (I := fun s => s.Sound v) (fun _ _ _ sound settings taken =>
    sound.rule (step_rule sound settings taken)) acts s s' run settings sound

/-- **Saves are atomic**, however many processes save at once and wherever they fail: a settings
file holds the bytes of the last call that renamed, all of them, and until then what it held; and
if the temporary files of earlier processes are private, so is every file that a call has made. -/
theorem saves_are_atomic {acts : List (Nat × SaveAct)} (settings : ∀ a ∈ acts, SavesSettings a)
    (run : exec (step directory) (start v) acts = some s) :
    (∀ name, Lasting name → (s.volume.read name).map Stored.bytes = register v s.puts name) ∧
      (PrivateLeftovers v → ∀ name file, s.volume.read name = some file →
        v.read name = some file ∨ file.mode = 0o600) := by
  have sound := run_sound settings run (sound_start v)
  exact ⟨sound.value, sound.mode⟩

/-! ## Readers -/

/-- A file that only lasting names lead to. -/
structure Published (s : Saves) (i : Nat) : Prop where
  old : i < s.volume.fresh
  lasting : ∀ name, s.volume.link name = some i → Lasting name

theorem Published.rule {i : Nat} (published : s.Published i) (taken : s.Rule s') :
    s'.Published i ∧ s'.volume.content i = s.volume.content i := by
  cases taken with
  | enters pid call next => exact ⟨⟨published.old, published.lasting⟩, rfl⟩
  | call pid c _ holds rule =>
      have other : s.volume.link c.temporary ≠ some i := fun linked =>
        not_lasting holds (published.lasting _ linked)
      cases rule with
      | goes volume stage running changes next =>
          refine ⟨⟨Nat.lt_of_lt_of_le published.old changes.grows, fun name linked => ?_⟩,
            changes.kept i published.old other⟩
          exact published.lasting name (changes.old name i published.old linked)
      | renames file here =>
          refine ⟨⟨published.old, fun name linked => ?_⟩, rfl⟩
          have linked : (s.volume.move c.temporary c.name).link name = some i := linked
          rw [Volume.move_link] at linked
          split at linked
          · exact absurd linked other
          · split at linked
            · cases linked
            · exact published.lasting name linked

/-- **A reader sees one version**: the file that it finds under the name of a settings file is not
changed while it reads, whatever is saved meanwhile. -/
theorem readers_see_one_version {acts more : List (Nat × SaveAct)}
    (settings : ∀ a ∈ acts ++ more, SavesSettings a)
    (run : exec (step directory) (start v) acts = some s)
    (later : exec (step directory) s more = some s') {name : Text} (lasting : Lasting name) {i : Nat}
    (linked : s.volume.link name = some i) : s'.volume.content i = s.volume.content i := by
  have sound := run_sound (fun a inside => settings a (List.mem_append_left _ inside)) run
    (sound_start v)
  have published : s.Published i := by
    refine ⟨s.volume.bound name i linked, fun other also => ?_⟩
    rw [s.volume.single other name i also linked]
    exact lasting
  have kept : s'.Sound v ∧ s'.Published i ∧ s'.volume.content i = s.volume.content i := by
    refine exec_preserves (I := fun t : Saves => t.Sound v ∧ t.Published i ∧
      t.volume.content i = s.volume.content i) ?_ more s s' later
      (fun a inside => settings a (List.mem_append_right _ inside)) ⟨sound, published, rfl⟩
    rintro t a t' ⟨sound, published, same⟩ settings taken
    have rule := step_rule sound settings taken
    obtain ⟨published, kept⟩ := published.rule rule
    exact ⟨sound.rule rule, published, kept.trans same⟩
  exact kept.2.2

/-! ## Two processes -/

def clientJson : Text := "client.json".toList

/-- A directory with one settings file. -/
def savedVolume : Volume Text Stored where
  link name := if name = clientJson then some 0 else none
  content _ := ⟨0o644, [7]⟩
  fresh := 1
  bound name i linked := by
    split at linked
    · cases linked
      exact Nat.zero_lt_one
    · cases linked
  single name other i first second := by
    split at first
    · split at second
      · simp_all
      · cases second
    · cases first

/-- The second process renames while the first is writing. -/
def savedFirst : List (Nat × SaveAct) :=
  [(1, .call (some clientJson) [1, 2, 3] 41), (2, .call (some clientJson) [4, 5] 41),
    (1, .openFile true), (2, .openFile true), (1, .write 2), (2, .write 2), (2, .written),
    (2, .flush true), (2, .rename true)]

/-- The first one is refused once, and renames when it tries again. -/
def savedThen : List (Nat × SaveAct) :=
  [(1, .write 1), (1, .written), (1, .flush true), (1, .rename false), (1, .remove false),
    (1, .call (some clientJson) [6] 41), (1, .openFile true), (1, .write 1), (1, .written),
    (1, .flush true), (1, .rename true)]

theorem saved_settings : ∀ a ∈ savedFirst ++ savedThen, SavesSettings a := by
  have lasting : Lasting clientJson := lasting_saved.1
  simp [savedFirst, savedThen, SavesSettings, lasting]

def savedMiddle : Saves :=
  (exec (step "config") (start savedVolume) savedFirst).get (by decide +kernel)

def savedEnd : Saves :=
  (exec (step "config") savedMiddle savedThen).get (by decide +kernel)

theorem savedEnd_run :
    exec (step "config") (start savedVolume) (savedFirst ++ savedThen) = some savedEnd := by
  have first : exec (step "config") (start savedVolume) savedFirst = some savedMiddle :=
    (Option.some_get _).symm
  rw [exec_append, first]
  exact (Option.some_get _).symm

theorem saves_are_atomic_run :
    (savedEnd.volume.read clientJson).map Stored.bytes = some [6] := by
  rw [(saves_are_atomic saved_settings savedEnd_run).1 clientJson lasting_saved.1]
  decide +kernel

theorem readers_see_one_version_run :
    ∃ i, savedMiddle.volume.link clientJson = some i ∧ savedEnd.volume.link clientJson ≠ some i ∧
      savedEnd.volume.content i = savedMiddle.volume.content i := by
  have linked : savedMiddle.volume.link clientJson = some 2 := by decide +kernel
  exact ⟨2, linked, by decide +kernel, readers_see_one_version saved_settings
    (Option.some_get _).symm (Option.some_get _).symm lasting_saved.1 linked⟩

end Saves

end RustSsh.Desktop
