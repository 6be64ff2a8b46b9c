/-
# Server.Identity -- making the relay's key pair

`generate` of `src/identity.rs`, on a file tree and with any of its steps failing.  Nothing it
finds is changed, and if it succeeds there is a pair; but a failure from the creation of the
private key on leaves that file behind (`generate_exact`).
-/
import RustSsh.Theory.FileTree
import RustSsh.Pairing.Wire

namespace RustSsh.Server

open RustSsh.Theory RustSsh.Protocol RustSsh.Pairing

set_option autoImplicit false

/-! ## Paths and keys -/

/-- A path of the command line: what stands between its slashes, the innermost first. -/
structure FilePath where
  absolute : Bool
  names : List String
  deriving DecidableEq, Repr

/-- A piece as the system takes it. -/
def pieceOf (name : String) : Piece String :=
  if name = "" ∨ name = "." then .stay else if name = ".." then .up else .name name

/-- Without the `.` and the slashes at its end, which `Path::components` leaves out; a relative
path keeps the `.` that it begins with. -/
def settled (absolute : Bool) : List String → List String
  | [] => []
  | name :: rest =>
      if name = "" ∨ name = "." ∧ (absolute ∨ rest ≠ []) then settled absolute rest
      else name :: rest

namespace FilePath

/-- `Path::parent`. -/
def parent (p : FilePath) : Option FilePath :=
  match settled p.absolute p.names with
  | [] => none
  | _ :: rest => some { p with names := settled p.absolute rest }

def isEmpty (p : FilePath) : Bool := !p.absolute && p.names.isEmpty

def display (p : FilePath) : String :=
  (if p.absolute then "/" else "") ++ "/".intercalate p.names.reverse

def pieces (p : FilePath) : List (Piece String) := p.names.map pieceOf

/-- The directory that `create_parent` makes. -/
def createdParent (p : FilePath) : Option FilePath := p.parent.filter fun parent => !parent.isEmpty

end FilePath

/-- What a file holds, and the mode it was created with. -/
structure Stored where
  mode : Nat
  bytes : Bytes
  deriving DecidableEq, Repr

abbrev KeyTree := FileTree String Stored

/-- A file tree, the process's working directory in it, and how many links the system follows on
one path. -/
structure Disk where
  tree : KeyTree
  cwd : List String
  links : Nat
  there : tree.entry cwd = some .directory

/-! What the system does with a path of the process, on a tree. -/

namespace Disk

variable (disk : Disk) (tree : KeyTree) (path : FilePath)

def start : List String := if path.absolute then [] else disk.cwd

def walk : Option (List String) := tree.walk disk.links (disk.start path) path.pieces.reverse

def slot : Option (List String) := tree.slot disk.links (disk.start path) path.pieces

def createDirAll : KeyTree := tree.createDirAll disk.links (disk.start path) path.pieces

def isDirectory : Bool :=
  match disk.walk tree path with
  | some place => tree.entry place = some .directory
  | none => false

/-- What a reader of the path gets. -/
def read : Option Bytes :=
  match disk.walk tree path with
  | some place =>
      match tree.entry place with
      | some (.file stored) => some stored.bytes
      | some .directory | some (.link ..) | none => none
  | none => none

/-- A new entry can be made there. -/
def Free : Prop := ∃ place, disk.slot tree path = some place ∧ tree.entry place = none

end Disk

/-- What `generate_keypair` returns; `publicKeyOf` is the curve. -/
structure Keypair (publicKeyOf : Bytes → Bytes) where
  privateKey : Bytes
  publicKey : Bytes
  privateSize : privateKey.length = staticKeySize
  publicSize : publicKey.length = staticKeySize
  pair : publicKey = publicKeyOf privateKey

/-- `ServerIdentity::load`; `file` is what the key file holds, if it can be read. -/
def loadIdentity (path : String) (file : Option Bytes) : Except String Bytes :=
  match file with
  | none => .error s!"reading server identity key {path}"
  | some bytes =>
      if bytes.length = staticKeySize then .ok bytes
      else .error s!"loading server identity key {path}"

/-! ## The source's functions -/

inductive Half where
  | privateKey
  | publicKey
  deriving DecidableEq, Repr

/-- A step of the call that can fail; the generation of the keys is an argument. -/
inductive GenerateStep where
  /-- `Path::exists`, which is false then -/
  | check (half : Half)
  | createParent (half : Half)
  /-- `OpenOptions::open` with `create_new` -/
  | create (half : Half)
  | write (half : Half)
  | flush (half : Half)
  deriving DecidableEq, Repr

/-- The steps that fail, and how far each gets: directories on the way, or bytes. -/
abbrev GenerateFaults := GenerateStep → Option Nat

section

variable (faults : GenerateFaults) (half : Half) (disk : Disk) (tree : KeyTree)

def pathExists (path : FilePath) : Bool :=
  (faults (.check half)).isNone && !path.isEmpty && (disk.walk tree path).isSome

def createParent (path : FilePath) : Except String Unit × KeyTree :=
  match path.createdParent with
  | none => (.ok (), tree)
  | some parent =>
      let failed : Except String Unit := .error s!"creating parent directory {parent.display}"
      match faults (.createParent half) with
      | some made => (failed, disk.createDirAll tree { parent with names := parent.names.rtake made })
      | none =>
          let tree := disk.createDirAll tree parent
          (if disk.isDirectory tree parent then .ok () else failed, tree)

/-- `write_all` and `flush`: what the file holds then, and whether they succeeded. -/
def writeAll (bytes : Bytes) : Bytes × Bool :=
  match faults (.write half) with
  | some cut =>
      if cut < bytes.length then (bytes.take cut, false)
      else (bytes, (faults (.flush half)).isNone)
  | none => (bytes, (faults (.flush half)).isNone)

/-- Whether a new file was written, which is `Ok`. -/
def writeNewWith (mode : Nat) (path : FilePath) (bytes : Bytes) : Bool × KeyTree :=
  if (faults (.create half)).isSome then (false, tree)
  else
    match (disk.slot tree path).bind
        (tree.create (.file ⟨mode, (writeAll faults half bytes).1⟩)) with
    | none => (false, tree)
    | some tree => ((writeAll faults half bytes).2, tree)

end

/-- `write_new`, with the default mode. -/
def writeNew (faults : GenerateFaults) (half : Half) (disk : Disk) (tree : KeyTree)
    (path : FilePath) (bytes : Bytes) : Bool × KeyTree :=
  writeNewWith faults half disk tree 0o666 path bytes

def writeNewPrivate (faults : GenerateFaults) (half : Half) (disk : Disk) (tree : KeyTree)
    (path : FilePath) (bytes : Bytes) : Bool × KeyTree :=
  writeNewWith faults half disk tree 0o600 path bytes

/-- The text of a public key file. -/
def publicKeyText (crates : Crates) (publicKey : Bytes) : Bytes :=
  Text.encode (crates.hexEncode publicKey ++ ['\n'])

/-- The two files of `generate`, one after the other. -/
def writePair {publicKeyOf : Bytes → Bytes} (crates : Crates) (disk : Disk)
    (faults : GenerateFaults) (tree : KeyTree) (keypair : Keypair publicKeyOf)
    (privatePath publicPath : FilePath) : Except String Unit × KeyTree :=
  match writeNewPrivate faults .privateKey disk tree privatePath keypair.privateKey with
  | (false, tree) => (.error s!"writing private identity key {privatePath.display}", tree)
  | (true, tree) =>
      match writeNew faults .publicKey disk tree publicPath
          (publicKeyText crates keypair.publicKey) with
      | (false, tree) => (.error s!"writing public identity key {publicPath.display}", tree)
      | (true, tree) => (.ok (), tree)

/-- `keys` is what `generate_keypair` returns. -/
def generate {publicKeyOf : Bytes → Bytes} (crates : Crates) (disk : Disk) (faults : GenerateFaults)
    (keys : Except String (Keypair publicKeyOf)) (privatePath publicPath : FilePath) :
    Except String Unit × KeyTree :=
  if pathExists faults .privateKey disk disk.tree privatePath then
    (.error s!"refusing to overwrite existing private identity key {privatePath.display}", disk.tree)
  else if pathExists faults .publicKey disk disk.tree publicPath then
    (.error s!"refusing to overwrite existing public identity key {publicPath.display}", disk.tree)
  else
    match createParent faults .privateKey disk disk.tree privatePath with
    | (.error error, tree) => (.error error, tree)
    | (.ok (), tree) =>
        match createParent faults .publicKey disk tree publicPath with
        | (.error error, tree) => (.error error, tree)
        | (.ok (), tree) =>
            match keys with
            | .error error => (.error s!"generating Noise server identity key: {error}", tree)
            | .ok keypair => writePair crates disk faults tree keypair privatePath publicPath

/-! ## What each step does -/

/-- The tree with what is missing on the way to the path's directory. -/
def withParent (disk : Disk) (tree : KeyTree) (path : FilePath) : KeyTree :=
  match path.createdParent with
  | none => tree
  | some parent => disk.createDirAll tree parent

/-- The path's directory is there then, and making it does not fail. -/
def ParentMade (faults : GenerateFaults) (half : Half) (disk : Disk) (tree : KeyTree)
    (path : FilePath) : Prop :=
  ∀ parent, path.createdParent = some parent →
    faults (.createParent half) = none ∧
      disk.isDirectory (withParent disk tree path) parent = true

section

variable {faults : GenerateFaults} {half : Half} {disk : Disk} {tree : KeyTree} {path : FilePath}

theorem withParent_grows (disk : Disk) (tree : KeyTree) (path : FilePath) :
    tree.Grows (withParent disk tree path) := by
  unfold withParent
  split
  · exact .refl tree
  · exact tree.createDirAll_grows _ _ _

theorem createParent_made (made : ParentMade faults half disk tree path) :
    createParent faults half disk tree path = (.ok (), withParent disk tree path) := by
  unfold ParentMade withParent at made
  unfold createParent withParent
  split
  · rfl
  · rename_i parent above
    rw [above] at made
    obtain ⟨fine, there⟩ := made parent rfl
    simp [fine, there]

theorem createParent_blocked (blocked : ¬ ParentMade faults half disk tree path) :
    ∃ error after, createParent faults half disk tree path = (.error error, after) ∧
      tree.Grows after := by
  unfold ParentMade withParent at blocked
  unfold createParent
  cases above : path.createdParent with
  | none => exact absurd (fun parent some => by rw [above] at some; cases some) blocked
  | some parent =>
      simp only [above] at blocked ⊢
      cases fault : faults (.createParent half) with
      | some reached => exact ⟨_, _, rfl, tree.createDirAll_grows _ _ _⟩
      | none =>
          have missing : disk.isDirectory (disk.createDirAll tree parent) parent = false := by
            rw [Bool.eq_false_iff]
            intro there
            refine blocked fun other same => ?_
            cases same
            exact ⟨fault, there⟩
          refine ⟨s!"creating parent directory {parent.display}", disk.createDirAll tree parent, ?_,
            tree.createDirAll_grows _ _ _⟩
          simp [missing]

/-- Every byte is written, and the flush does not fail. -/
def Written (faults : GenerateFaults) (half : Half) (size : Nat) : Prop :=
  (∀ cut, faults (.write half) = some cut → size ≤ cut) ∧ faults (.flush half) = none

theorem writeAll_written {bytes : Bytes} (written : Written faults half bytes.length) :
    writeAll faults half bytes = (bytes, true) := by
  obtain ⟨whole, flushed⟩ := written
  unfold writeAll
  cases fault : faults (.write half) with
  | none => simp [flushed]
  | some cut =>
      have long := whole cut fault
      simp [flushed, Nat.not_lt.mpr long]

theorem writeAll_unwritten {bytes : Bytes} (unwritten : ¬ Written faults half bytes.length) :
    (writeAll faults half bytes).2 = false := by
  unfold writeAll
  cases fault : faults (.write half) with
  | none =>
      have unflushed : faults (.flush half) ≠ none := fun flushed =>
        unwritten ⟨fun cut some => by simp [fault] at some, flushed⟩
      simpa [Option.isSome_iff_ne_none] using unflushed
  | some cut =>
      by_cases short : cut < bytes.length
      · simp [short]
      · have unflushed : faults (.flush half) ≠ none := fun flushed =>
          unwritten ⟨fun other some => by
            rw [fault, Option.some.injEq] at some
            omega, flushed⟩
        simpa [short, Option.isSome_iff_ne_none] using unflushed

/-- A file is created where nothing is. -/
theorem writeNewWith_free (mode : Nat) (bytes : Bytes) (fine : faults (.create half) = none)
    {place : List String} (found : disk.slot tree path = some place) (free : tree.entry place = none) :
    ∃ after, tree.create (.file ⟨mode, (writeAll faults half bytes).1⟩) place = some after ∧
      writeNewWith faults half disk tree mode path bytes =
        ((writeAll faults half bytes).2, after) := by
  obtain ⟨after, created⟩ := FileTree.create_vacant
    (e := .file ⟨mode, (writeAll faults half bytes).1⟩) ((FileTree.slot_directory found).mpr free)
  exact ⟨after, created, by simp [writeNewWith, fine, found, created]⟩

theorem writeNewWith_refused {mode : Nat} {bytes : Bytes}
    (refused : ¬ (faults (.create half) = none ∧ disk.Free tree path)) :
    writeNewWith faults half disk tree mode path bytes = (false, tree) := by
  unfold writeNewWith
  split
  · rfl
  · rename_i fine
    rw [Option.not_isSome_iff_eq_none] at fine
    cases found : disk.slot tree path with
    | none => rfl
    | some place =>
        have taken : ¬ tree.Vacant place := fun vacant => refused ⟨fine, place, found, vacant.free⟩
        rw [Option.bind_some, FileTree.create_eq_none.mpr taken]

/-- What is seen is there in every tree with more, so nothing can be made there. -/
theorem not_free_of_pathExists {after : KeyTree} (seen : pathExists faults half disk tree path = true)
    (more : tree.Extends after) : ¬ disk.Free after path := by
  simp only [pathExists, Bool.and_eq_true, Option.isSome_iff_exists] at seen
  obtain ⟨-, place, walked⟩ := seen
  rintro ⟨other, found, free⟩
  exact FileTree.slot_taken ((FileTree.walk_iff.mp walked).extends more) found free

end

/-! ## The law -/

/-- What `hex::encode` writes, as its documentation says. -/
def HexLower (crates : Crates) : Prop :=
  ∀ bytes, ∀ c ∈ crates.hexEncode bytes, c ∈ "0123456789abcdef".toList

section

variable {publicKeyOf : Bytes → Bytes} (crates : Crates) (disk : Disk) (faults : GenerateFaults)
  (keys : Except String (Keypair publicKeyOf)) (privatePath publicPath : FilePath)

/-- The tree with the directories of both keys, as far as they can be made. -/
def furnished : KeyTree := withParent disk (withParent disk disk.tree privatePath) publicPath

/-- The call gets as far as making the private key's file. -/
structure Creates : Prop where
  publicUnseen : pathExists faults .publicKey disk disk.tree publicPath = false
  privateParent : ParentMade faults .privateKey disk disk.tree privatePath
  publicParent : ParentMade faults .publicKey disk (withParent disk disk.tree privatePath) publicPath
  created : faults (.create .privateKey) = none
  free : disk.Free (furnished disk privatePath publicPath) privatePath

/-- And from there to its end. -/
structure Completes (keypair : Keypair publicKeyOf) : Prop where
  written : Written faults .privateKey keypair.privateKey.length
  created : faults (.create .publicKey) = none
  publicWritten : Written faults .publicKey (publicKeyText crates keypair.publicKey).length
  free : disk.Free (furnished disk privatePath publicPath) publicPath
  /-- the two paths do not lead to one place -/
  apart : disk.slot (furnished disk privatePath publicPath) publicPath ≠
    disk.slot (furnished disk privatePath publicPath) privatePath

/-- A call that fails leaves no file that was not there, one that succeeds leaves a pair, and
neither changes a file. -/
structure AllOrNothing (publicKeyOf : Bytes → Bytes) (run : Except String Unit × KeyTree) :
    Prop where
  nothing : ∀ error, run.1 = .error error → ∀ place, run.2.IsFile place → disk.tree.IsFile place
  all : run.1 = .ok () → ∃ key,
    loadIdentity privatePath.display (disk.read run.2 privatePath) = .ok key ∧
      loadPublicKey crates publicPath.display (disk.read run.2 publicPath) = .ok (publicKeyOf key)
  kept : ∀ place stored, disk.tree.entry place = some (.file stored) →
    run.2.entry place = some (.file stored)

end

section

variable {publicKeyOf : Bytes → Bytes} {crates : Crates} {disk : Disk} {faults : GenerateFaults}
  {keys : Except String (Keypair publicKeyOf)} {privatePath publicPath : FilePath}
  {keypair : Keypair publicKeyOf} {tree : KeyTree}

theorem furnished_grows (disk : Disk) (privatePath publicPath : FilePath) :
    disk.tree.Grows (furnished disk privatePath publicPath) :=
  (withParent_grows disk disk.tree privatePath).trans (withParent_grows disk _ publicPath)

/-- The part of the call before it writes anything. -/
theorem generate_parents :
    ((Creates disk faults privatePath publicPath → ∀ keypair, keys ≠ .ok keypair) ∧
      ∃ error after,
        generate crates disk faults keys privatePath publicPath = (.error error, after) ∧
          disk.tree.Grows after) ∨
    (pathExists faults .publicKey disk disk.tree publicPath = false ∧
      ParentMade faults .privateKey disk disk.tree privatePath ∧
      ParentMade faults .publicKey disk (withParent disk disk.tree privatePath) publicPath ∧
      ∃ keypair, keys = .ok keypair ∧
        generate crates disk faults keys privatePath publicPath =
          writePair crates disk faults (furnished disk privatePath publicPath) keypair privatePath
            publicPath) := by
  unfold generate
  split
  · rename_i seen
    refine .inl ⟨fun creates => ?_, _, _, rfl, .refl _⟩
    exact absurd creates.free
      (not_free_of_pathExists seen (furnished_grows disk privatePath publicPath).grown)
  · split
    · rename_i seen
      refine .inl ⟨fun creates => ?_, _, _, rfl, .refl _⟩
      rw [creates.publicUnseen] at seen
      cases seen
    · rename_i unseen
      rw [Bool.not_eq_true] at unseen
      by_cases privateParent : ParentMade faults .privateKey disk disk.tree privatePath
      · rw [createParent_made privateParent]
        by_cases publicParent : ParentMade faults .publicKey disk
            (withParent disk disk.tree privatePath) publicPath
        · simp only [createParent_made publicParent]
          cases keys with
          | error error =>
              exact .inl ⟨fun _ keypair => by simp, _, _, rfl, furnished_grows _ _ _⟩
          | ok keypair => exact .inr ⟨unseen, privateParent, publicParent, keypair, rfl, rfl⟩
        · obtain ⟨error, after, failed, grows⟩ := createParent_blocked publicParent
          simp only [failed]
          exact .inl ⟨fun creates => absurd creates.publicParent publicParent, _, _, rfl,
            (withParent_grows _ _ _).trans grows⟩
      · obtain ⟨error, after, failed, grows⟩ := createParent_blocked privateParent
        rw [failed]
        exact .inl ⟨fun creates => absurd creates.privateParent privateParent, _, _, rfl, grows⟩

theorem writePair_refused
    (refused : ¬ (faults (.create .privateKey) = none ∧ disk.Free tree privatePath)) :
    writePair crates disk faults tree keypair privatePath publicPath =
      (.error s!"writing private identity key {privatePath.display}", tree) := by
  rw [writePair, writeNewPrivate, writeNewWith_refused refused]

/-- What the call does from the private key's file on succeeds. -/
structure Follows (crates : Crates) (faults : GenerateFaults) (disk : Disk) (tree : KeyTree)
    (keypair : Keypair publicKeyOf) (place : List String) (publicPath : FilePath) : Prop where
  written : Written faults .privateKey keypair.privateKey.length
  created : faults (.create .publicKey) = none
  publicWritten : Written faults .publicKey (publicKeyText crates keypair.publicKey).length
  free : ∃ other, disk.slot tree publicPath = some other ∧ tree.entry other = none ∧ other ≠ place

/-- With a private key's file there, nothing else can be made less than before. -/
theorem free_after {after : KeyTree} {stored : Stored} {place : List String}
    (created : tree.create (.file stored) place = some after) (path : FilePath) :
    disk.Free after path ↔
      ∃ other, disk.slot tree path = some other ∧ tree.entry other = none ∧ other ≠ place := by
  have same : disk.slot after path = disk.slot tree path := FileTree.slot_create created _ _ _
  rw [Disk.Free, same]
  refine exists_congr fun other => and_congr_right fun _ => ?_
  rw [FileTree.create_entry created]
  by_cases own : other = place
  · simp [own]
  · simp [own]

/-- A file at the end of a path is what a reader of the path gets. -/
theorem read_slot {path : FilePath} {place : List String} {stored : Stored}
    (found : disk.slot tree path = some place) (file : tree.entry place = some (.file stored)) :
    disk.read tree path = some stored.bytes := by
  have walked : disk.walk tree path = some place := FileTree.slot_leads found file
  simp only [Disk.read, walked, file]

/-- The two files, each where its path leads. -/
theorem writePair_done {place : List String} (fine : faults (.create .privateKey) = none)
    (found : disk.slot tree privatePath = some place) (free : tree.entry place = none)
    (follows : Follows crates faults disk tree keypair place publicPath) :
    ∃ left, writePair crates disk faults tree keypair privatePath publicPath = (.ok (), left) ∧
      tree.Extends left ∧ disk.read left privatePath = some keypair.privateKey ∧
      disk.read left publicPath = some (publicKeyText crates keypair.publicKey) := by
  obtain ⟨after, created, first⟩ := writeNewWith_free 0o600 keypair.privateKey fine found free
  obtain ⟨other, alsoFound, alsoFree⟩ := (free_after created publicPath).mpr follows.free
  obtain ⟨left, alsoCreated, second⟩ := writeNewWith_free 0o666
    (publicKeyText crates keypair.publicKey) follows.created alsoFound alsoFree
  rw [writeAll_written follows.written] at created first
  rw [writeAll_written follows.publicWritten] at alsoCreated second
  have more := FileTree.create_extends created
  have alsoMore := FileTree.create_extends alsoCreated
  refine ⟨left, ?_, more.trans alsoMore, ?_, ?_⟩
  · rw [writePair, writeNewPrivate, first]
    simp only [writeNew, second]
  · exact read_slot (FileTree.slot_extends (more.trans alsoMore) found)
      (alsoMore _ _ (FileTree.create_own created))
  · exact read_slot (FileTree.slot_extends alsoMore alsoFound) (FileTree.create_own alsoCreated)

/-- Otherwise the private key's file is left. -/
theorem writePair_orphan {place : List String} (fine : faults (.create .privateKey) = none)
    (found : disk.slot tree privatePath = some place) (free : tree.entry place = none)
    (stops : ¬ Follows crates faults disk tree keypair place publicPath) :
    ∃ error left, writePair crates disk faults tree keypair privatePath publicPath =
      (.error error, left) ∧ left.IsFile place := by
  obtain ⟨after, created, first⟩ := writeNewWith_free 0o600 keypair.privateKey fine found free
  have there : after.IsFile place := ⟨_, FileTree.create_own created⟩
  by_cases written : Written faults .privateKey keypair.privateKey.length
  · rw [writeAll_written written] at first
    by_cases again : faults (.create .publicKey) = none ∧ disk.Free after publicPath
    · obtain ⟨alsoFine, other, alsoFound, alsoFree⟩ := again
      obtain ⟨left, alsoCreated, second⟩ := writeNewWith_free 0o666
        (publicKeyText crates keypair.publicKey) alsoFine alsoFound alsoFree
      have before := (free_after created publicPath).mp ⟨other, alsoFound, alsoFree⟩
      have unwritten := fun publicWritten => stops ⟨written, alsoFine, publicWritten, before⟩
      rw [writeAll_unwritten unwritten] at second
      obtain ⟨stored, file⟩ := there
      refine ⟨s!"writing public identity key {publicPath.display}", left, ?_, stored,
        FileTree.create_extends alsoCreated _ _ file⟩
      rw [writePair, writeNewPrivate, first]
      simp only [writeNew, second]
    · refine ⟨s!"writing public identity key {publicPath.display}", after, ?_, there⟩
      rw [writePair, writeNewPrivate, first]
      simp only [writeNew, writeNewWith_refused again]
  · rw [writeAll_unwritten written] at first
    exact ⟨_, after, by rw [writePair, writeNewPrivate, first], there⟩

/-- A call that succeeds leaves the pair that was generated. -/
theorem generate_ok {left : KeyTree}
    (generated : generate crates disk faults keys privatePath publicPath = (.ok (), left)) :
    ∃ keypair, keys = .ok keypair ∧ disk.tree.Extends left ∧
      disk.read left privatePath = some keypair.privateKey ∧
      disk.read left publicPath = some (publicKeyText crates keypair.publicKey) := by
  rcases @generate_parents _ crates disk faults keys privatePath publicPath with
    ⟨-, error, after, failed, -⟩ | ⟨-, -, -, keypair, same, ran⟩
  · cases generated.symm.trans failed
  · rw [generated] at ran
    by_cases creatable : faults (.create .privateKey) = none ∧
        disk.Free (furnished disk privatePath publicPath) privatePath
    · obtain ⟨fine, place, found, free⟩ := creatable
      by_cases follows : Follows crates faults disk (furnished disk privatePath publicPath) keypair
          place publicPath
      · obtain ⟨left, done, more, reads⟩ := writePair_done fine found free follows
        obtain ⟨-, rfl⟩ := Prod.mk.inj (ran.trans done)
        exact ⟨keypair, same, (furnished_grows _ _ _).grown.trans more, reads⟩
      · obtain ⟨error, left, failed, -⟩ := writePair_orphan fine found free follows
        cases ran.trans failed
    · cases ran.trans (writePair_refused creatable)

/-- The public key's file reads as the key. -/
theorem loadPublicKey_text (documented : crates.Documented) (lower : HexLower crates)
    (path : String) {publicKey : Bytes} (size : publicKey.length = staticKeySize) :
    loadPublicKey crates path (some (publicKeyText crates publicKey)) = .ok publicKey := by
  have digits : "0123456789abcdef".toList.all (fun c => !Text.isWhitespace c) = true := by decide
  have solid : ∀ c ∈ crates.hexEncode publicKey, Text.isWhitespace c = false := fun c inside => by
    simpa using List.all_eq_true.mp digits c (lower publicKey c inside)
  have trimmed : (crates.hexEncode publicKey ++ ['\n']).trim = crates.hexEncode publicKey := by
    have newline : ∀ c ∈ ['\n'], Text.isWhitespace c = true := by simp [Text.isWhitespace]
    rw [Text.trim_spaces newline, Text.trim_of_solid solid]
  simp [loadPublicKey, publicKeyText, trimmed, decodePublicKey, documented.hex, size]

/-- The two files are read as a pair. -/
theorem generate_loads (documented : crates.Documented) (lower : HexLower crates) {left : KeyTree}
    (generated : generate crates disk faults keys privatePath publicPath = (.ok (), left)) :
    ∃ keypair, keys = .ok keypair ∧
      loadIdentity privatePath.display (disk.read left privatePath) = .ok keypair.privateKey ∧
      loadPublicKey crates publicPath.display (disk.read left publicPath) = .ok keypair.publicKey := by
  obtain ⟨keypair, same, -, privateBytes, publicBytes⟩ := generate_ok generated
  refine ⟨keypair, same, ?_, ?_⟩
  · simp [privateBytes, loadIdentity, keypair.privateSize]
  · rw [publicBytes, loadPublicKey_text documented lower _ keypair.publicSize]

theorem allOrNothing_early (crates : Crates) (privatePath publicPath : FilePath) (error : String)
    {after : KeyTree} (grows : disk.tree.Grows after) :
    AllOrNothing crates disk privatePath publicPath publicKeyOf (.error error, after) where
  nothing _ _ place := by
    rintro ⟨stored, file⟩
    exact ⟨stored, (grows.file _ stored).mp file⟩
  all done := by cases done
  kept place stored there := (grows.file place stored).mpr there

/-- A call that gets to its end leaves a pair. -/
theorem allOrNothing_done (documented : crates.Documented) (lower : HexLower crates) {left : KeyTree}
    (generated : generate crates disk faults keys privatePath publicPath = (.ok (), left)) :
    AllOrNothing crates disk privatePath publicPath publicKeyOf (.ok (), left) where
  nothing error failed := by cases failed
  all _ := by
    obtain ⟨keypair, -, privateKey, publicKey⟩ := generate_loads documented lower generated
    exact ⟨keypair.privateKey, privateKey, keypair.pair ▸ publicKey⟩
  kept place stored there := by
    obtain ⟨-, -, more, -⟩ := generate_ok generated
    exact more _ _ there

/-- What follows the private key's file, in the terms of the tree before it. -/
theorem follows_iff {place : List String} (found : disk.slot (furnished disk privatePath publicPath)
    privatePath = some place) :
    Follows crates faults disk (furnished disk privatePath publicPath) keypair place publicPath ↔
      Completes crates disk faults privatePath publicPath keypair := by
  constructor
  · rintro ⟨written, created, publicWritten, other, alsoFound, free, apart⟩
    refine ⟨written, created, publicWritten, ⟨other, alsoFound, free⟩, ?_⟩
    rw [found, alsoFound]
    simpa using apart
  · rintro ⟨written, created, publicWritten, ⟨other, alsoFound, free⟩, apart⟩
    refine ⟨written, created, publicWritten, other, alsoFound, free, ?_⟩
    rw [found, alsoFound] at apart
    simpa using apart

/-- **A call is all or nothing** exactly if it goes on to its end once it makes the private
key's file. -/
theorem generate_exact (documented : crates.Documented) (lower : HexLower crates) :
    AllOrNothing crates disk privatePath publicPath publicKeyOf
        (generate crates disk faults keys privatePath publicPath) ↔
      (Creates disk faults privatePath publicPath → ∀ keypair, keys = .ok keypair →
        Completes crates disk faults privatePath publicPath keypair) := by
  rcases @generate_parents _ crates disk faults keys privatePath publicPath with
    ⟨stops, error, after, failed, grows⟩ | ⟨unseen, privateParent, publicParent, keypair, rfl, ran⟩
  · rw [failed]
    exact iff_of_true (allOrNothing_early crates privatePath publicPath error grows)
      fun creates keypair made => absurd made (stops creates keypair)
  · have grows := furnished_grows disk privatePath publicPath
    by_cases creatable : faults (.create .privateKey) = none ∧
        disk.Free (furnished disk privatePath publicPath) privatePath
    · obtain ⟨fine, place, found, free⟩ := creatable
      have creates : Creates disk faults privatePath publicPath :=
        ⟨unseen, privateParent, publicParent, fine, place, found, free⟩
      by_cases follows : Follows crates faults disk (furnished disk privatePath publicPath) keypair
          place publicPath
      · obtain ⟨left, done, -⟩ := writePair_done fine found free follows
        rw [done] at ran
        rw [ran]
        refine iff_of_true (allOrNothing_done documented lower ran) ?_
        intro _ other same
        cases same
        exact (follows_iff found).mp follows
      · obtain ⟨error, left, failed, file⟩ := writePair_orphan fine found free follows
        rw [ran, failed]
        refine iff_of_false (fun allOrNothing => ?_) fun condition => ?_
        · obtain ⟨stored, before⟩ := allOrNothing.nothing error rfl place file
          rw [grows.grown _ _ before] at free
          cases free
        · exact follows ((follows_iff found).mpr (condition creates keypair rfl))
    · rw [ran, writePair_refused creatable]
      refine iff_of_true (allOrNothing_early crates privatePath publicPath _ grows) ?_
      intro creates
      exact absurd ⟨creates.created, creates.free⟩ creatable

end

/-! ## An empty disk -/

/-- The public key of 32 zero bytes. -/
def zeroPublicKey : Bytes :=
  [0x2f, 0xe5, 0x7d, 0xa3, 0x47, 0xcd, 0x62, 0x43, 0x15, 0x28, 0xda, 0xac, 0x5f, 0xbb, 0x29, 0x07,
    0x30, 0xff, 0xf6, 0x84, 0xaf, 0xc4, 0xcf, 0xc2, 0xed, 0x90, 0x99, 0x5f, 0x58, 0xcb, 0x3b, 0x74]

def zeroKeypair : Keypair fun _ => zeroPublicKey where
  privateKey := List.replicate 32 0
  publicKey := zeroPublicKey
  privateSize := rfl
  publicSize := rfl
  pair := rfl

/-- A disk with nothing but its root. -/
def bareDisk : Disk := ⟨.empty, [], 40, rfl⟩

/-- `keygen` with two relative paths, on such a disk. -/
def keygen (faults : GenerateFaults) (privatePath publicPath : List String) :
    Except String Unit × KeyTree :=
  generate crates bareDisk faults (.ok zeroKeypair) ⟨false, privatePath⟩ ⟨false, publicPath⟩

theorem hexLower_crates : HexLower crates := hexEncode_lower

/-- The directories are made, and one of them is gone through and left. -/
theorem generate_exact_apart :
    AllOrNothing crates bareDisk ⟨false, ["identity.key", "etc"]⟩
      ⟨false, ["identity.pub", "..", "public"]⟩ (fun _ => zeroPublicKey)
      (keygen (fun _ => none) ["identity.key", "etc"] ["identity.pub", "..", "public"]) := by
  refine (generate_exact crates_documented hexLower_crates).mpr fun _ keypair _ => ?_
  exact ⟨⟨by simp, rfl⟩, rfl, ⟨by simp, rfl⟩, ⟨["identity.pub"], by decide +kernel, by decide +kernel⟩,
    by decide +kernel⟩

/-- With one place for both keys, or a public key that cannot be created, the private key is left
alone; with other paths, the next call is refused because of it. -/
theorem generate_orphan :
    let once := keygen (fun _ => none) ["identity.key", "."] ["identity.key"]
    let denied := keygen (fun step => if step = .create .publicKey then some 0 else none)
      ["identity.key"] ["identity.pub"]
    once.1 = .error "writing public identity key identity.key" ∧
      ¬ AllOrNothing crates bareDisk ⟨false, ["identity.key", "."]⟩ ⟨false, ["identity.key"]⟩
        (fun _ => zeroPublicKey) once ∧
      denied.1 = .error "writing public identity key identity.pub" ∧
      ¬ AllOrNothing crates bareDisk ⟨false, ["identity.key"]⟩ ⟨false, ["identity.pub"]⟩
        (fun _ => zeroPublicKey) denied ∧
      (generate crates ⟨denied.2, [], 40, denied.2.root⟩ (fun _ => none) (.ok zeroKeypair)
          ⟨false, ["identity.key"]⟩ ⟨false, ["identity.pub"]⟩).1 =
        .error "refusing to overwrite existing private identity key identity.key" := by
  have orphan : ∀ q ∈ [keygen (fun _ => none) ["identity.key", "."] ["identity.key"],
      keygen (fun step => if step = .create .publicKey then some 0 else none)
        ["identity.key"] ["identity.pub"]],
      q.2.entry ["identity.key"] = some (.file ⟨0o600, List.replicate 32 0⟩) := by decide +kernel
  refine ⟨by decide +kernel, fun allOrNothing => ?_, by decide +kernel, fun allOrNothing => ?_,
    by decide +kernel⟩
  · obtain ⟨stored, there⟩ := allOrNothing.nothing "writing public identity key identity.key"
      (by decide +kernel) ["identity.key"] ⟨_, orphan _ (by simp)⟩
    cases there
  · obtain ⟨stored, there⟩ := allOrNothing.nothing "writing public identity key identity.pub"
      (by decide +kernel) ["identity.key"] ⟨_, orphan _ (by simp)⟩
    cases there

end RustSsh.Server
