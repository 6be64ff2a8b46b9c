/-
# Theory.FileTree -- directories, files and links

A file tree says what is at a place.  A place is a list of names, the innermost first, so that
`[]` is the root.  A path is walked from a place piece by piece (`walk`): `.` stays, `..` goes
up, a name goes down, and where there is a symbolic link its text is walked instead.  So a
place has many paths, and where a path leads depends on the tree.

A new entry goes to the end of a path where nothing is (`create`), and `createDirAll` makes
what is missing on a path.  What a path led to it leads to in every tree that has more
(`Leads.extends`), and a new file moves no other path's end (`slot_create`).
-/
import Mathlib.Logic.Function.Basic

namespace RustSsh.Theory

set_option autoImplicit false

/-- A piece of a path: `.` or an empty piece, `..`, or a name. -/
inductive Piece (ν : Type) where
  | stay
  | up
  | name (name : ν)
  deriving DecidableEq, Repr

inductive Entry (ν β : Type) where
  | directory
  | file (content : β)
  /-- a symbolic link and its text -/
  | link (absolute : Bool) (text : List (Piece ν))
  deriving DecidableEq, Repr

structure FileTree (ν β : Type) where
  entry : List ν → Option (Entry ν β)
  root : entry [] = some .directory
  inside : ∀ name place, entry (name :: place) ≠ none → entry place = some .directory

namespace FileTree

variable {ν β : Type}

/-- The root and nothing in it. -/
def empty : FileTree ν β where
  entry
    | [] => some .directory
    | _ :: _ => none
  root := rfl
  inside _ _ there := absurd rfl there

def IsFile (t : FileTree ν β) (p : List ν) : Prop := ∃ content, t.entry p = some (.file content)

/-- Nothing is there, in a directory that is. -/
def Vacant (t : FileTree ν β) : List ν → Prop
  | [] => False
  | name :: place => t.entry (name :: place) = none ∧ t.entry place = some .directory

/-- All that was there is there. -/
def Extends (t u : FileTree ν β) : Prop := ∀ q e, t.entry q = some e → u.entry q = some e

/-- What was there is there, and what is new is a directory. -/
def Grows (t u : FileTree ν β) : Prop :=
  ∀ q, u.entry q = t.entry q ∨ t.entry q = none ∧ u.entry q = some .directory

section Walk

variable [DecidableEq ν] [DecidableEq β]

instance (t : FileTree ν β) : (p : List ν) → Decidable (t.Vacant p)
  | [] => inferInstanceAs (Decidable False)
  | _ :: _ => inferInstanceAs (Decidable (_ ∧ _))

/-- The walk up to its next link, and from there with `next`. -/
def walkWith (t : FileTree ν β) (next : List ν → List (Piece ν) → Option (List ν)) :
    List ν → List (Piece ν) → Option (List ν)
  | p, [] => some p
  | p, piece :: rest =>
      if t.entry p = some .directory then
        match piece with
        | .stay => t.walkWith next p rest
        | .up => t.walkWith next p.tail rest
        | .name name =>
            match t.entry (name :: p) with
            | none => none
            | some (.link absolute text) => next (if absolute then [] else p) (text ++ rest)
            | some _ => t.walkWith next (name :: p) rest
      else none

/-- Where the pieces lead from a place, if all that is on the way is there; `links` is how many
links the system follows on one path. -/
def walk (t : FileTree ν β) : Nat → List ν → List (Piece ν) → Option (List ν)
  | 0 => t.walkWith fun _ _ => none
  | links + 1 => t.walkWith (t.walk links)

/-- The place of the last name of a path, whose pieces come innermost first. -/
def slot (t : FileTree ν β) (links : Nat) (p : List ν) : List (Piece ν) → Option (List ν)
  | .name name :: front =>
      match t.walk links p front.reverse with
      | some d => if t.entry d = some .directory then some (name :: d) else none
      | none => none
  | _ => none

/-- `open` with `O_CREAT | O_EXCL`, and `mkdir`, at a place. -/
def create (t : FileTree ν β) (e : Entry ν β) (p : List ν) : Option (FileTree ν β) :=
  if vacant : t.Vacant p then
    some {
      entry := Function.update t.entry p (some e)
      root := by
        cases p with
        | nil => exact vacant.elim
        | cons name place => rw [Function.update_of_ne (by simp), t.root]
      inside := by
        intro inner place there
        cases p with
        | nil => exact vacant.elim
        | cons name parent =>
            by_cases own : inner :: place = name :: parent
            · cases own
              rw [Function.update_of_ne (by simp)]
              exact vacant.2
            · rw [Function.update_of_ne own] at there
              have directory := t.inside inner place there
              rw [Function.update_of_ne (fun same => ?_), directory]
              rw [same, vacant.1] at directory
              cases directory }
  else none

/-- `fs::create_dir_all` of a path, innermost piece first, from a place; it has succeeded if the
path leads to a directory then. -/
def createDirAll (t : FileTree ν β) (links : Nat) (p : List ν) : List (Piece ν) → FileTree ν β
  | [] => t
  | piece :: front =>
      let u := t.createDirAll links p front
      ((u.slot links p (piece :: front)).bind (u.create .directory)).getD u

end Walk

/-! ## Trees with more -/

theorem Extends.trans {t u v : FileTree ν β} (first : Extends t u) (second : Extends u v) :
    Extends t v := fun q e there => second q e (first q e there)

/-- Only a place that is free is vacant. -/
theorem Vacant.free {t : FileTree ν β} {p : List ν} (vacant : t.Vacant p) : t.entry p = none := by
  cases p with
  | nil => exact vacant.elim
  | cons name place => exact vacant.1

namespace Grows

variable {t u v : FileTree ν β}

theorem refl (t : FileTree ν β) : Grows t t := fun _ => .inl rfl

theorem trans (first : Grows t u) (second : Grows u v) : Grows t v := by
  intro q
  rcases second q with same | ⟨absent, made⟩
  · rw [same]
    exact first q
  · rcases first q with same | ⟨-, other⟩
    · exact .inr ⟨same ▸ absent, made⟩
    · rw [other] at absent
      cases absent

theorem grown (grows : Grows t u) : Extends t u := by
  intro q e there
  rcases grows q with same | ⟨absent, -⟩
  · rw [same, there]
  · rw [there] at absent
    cases absent

/-- The files are the same. -/
theorem file (grows : Grows t u) (q : List ν) (content : β) :
    u.entry q = some (.file content) ↔ t.entry q = some (.file content) := by
  rcases grows q with same | ⟨absent, made⟩
  · rw [same]
  · simp [absent, made]

end Grows

/-! ## Walks -/

/-- The walk from a place gets to its end. -/
inductive Leads (t : FileTree ν β) : Nat → List ν → List (Piece ν) → List ν → Prop where
  | here {links : Nat} {p : List ν} : Leads t links p [] p
  | stay {links : Nat} {p q : List ν} {rest : List (Piece ν)}
      (directory : t.entry p = some .directory) (further : Leads t links p rest q) :
      Leads t links p (.stay :: rest) q
  | up {links : Nat} {p q : List ν} {rest : List (Piece ν)}
      (directory : t.entry p = some .directory) (further : Leads t links p.tail rest q) :
      Leads t links p (.up :: rest) q
  | down {links : Nat} {p q : List ν} {rest : List (Piece ν)} {name : ν} {e : Entry ν β}
      (directory : t.entry p = some .directory) (there : t.entry (name :: p) = some e)
      (solid : ∀ absolute text, e ≠ .link absolute text)
      (further : Leads t links (name :: p) rest q) : Leads t links p (.name name :: rest) q
  | link {links : Nat} {p q : List ν} {rest text : List (Piece ν)} {name : ν} {absolute : Bool}
      (directory : t.entry p = some .directory)
      (there : t.entry (name :: p) = some (.link absolute text))
      (further : Leads t links (if absolute then [] else p) (text ++ rest) q) :
      Leads t (links + 1) p (.name name :: rest) q

variable {t u : FileTree ν β} {p : List ν}

/-- **What a path leads to it leads to in every tree that has more.** -/
theorem Leads.extends {links : Nat} {pieces : List (Piece ν)} {q : List ν} (more : t.Extends u)
    (leads : Leads t links p pieces q) : Leads u links p pieces q := by
  induction leads with
  | here => exact .here
  | stay directory further ih => exact .stay (more _ _ directory) ih
  | up directory further ih => exact .up (more _ _ directory) ih
  | down directory there solid further ih => exact .down (more _ _ directory) (more _ _ there) solid ih
  | link directory there further ih => exact .link (more _ _ directory) (more _ _ there) ih

/-- One name more, of what is in the directory that the path leads to. -/
theorem Leads.snoc {links : Nat} {pieces : List (Piece ν)} {d : List ν} {name : ν} {e : Entry ν β}
    (leads : Leads t links p pieces d) (directory : t.entry d = some .directory)
    (there : t.entry (name :: d) = some e) (solid : ∀ absolute text, e ≠ .link absolute text) :
    Leads t links p (pieces ++ [.name name]) (name :: d) := by
  induction leads with
  | here => exact .down directory there solid .here
  | stay above further ih => exact .stay above (ih directory there)
  | up above further ih => exact .up above (ih directory there)
  | down above here other further ih => exact .down above here other (ih directory there)
  | link above here further ih =>
      have rest := ih directory there
      rw [List.append_assoc] at rest
      exact .link above here rest

/-- A path that gets to its end has an entry for its last name. -/
theorem Leads.last {links : Nat} {front : List (Piece ν)} {q : List ν} {name : ν}
    (leads : Leads t links p (front ++ [.name name]) q) :
    ∃ d, Leads t links p front d ∧ t.entry d = some .directory ∧ t.entry (name :: d) ≠ none := by
  generalize whole : front ++ [.name name] = pieces at leads
  induction leads generalizing front with
  | here => simp at whole
  | stay above further ih =>
      cases front with
      | nil => cases whole
      | cons piece front =>
          cases whole
          obtain ⟨d, leads, rest⟩ := ih rfl
          exact ⟨d, .stay above leads, rest⟩
  | up above further ih =>
      cases front with
      | nil => cases whole
      | cons piece front =>
          cases whole
          obtain ⟨d, leads, rest⟩ := ih rfl
          exact ⟨d, .up above leads, rest⟩
  | down above there solid further ih =>
      cases front with
      | nil =>
          cases whole
          exact ⟨_, .here, above, by simp [there]⟩
      | cons piece front =>
          cases whole
          obtain ⟨d, leads, rest⟩ := ih rfl
          exact ⟨d, .down above there solid leads, rest⟩
  | link above there further ih =>
      cases front with
      | nil =>
          cases whole
          exact ⟨_, .here, above, by simp [there]⟩
      | cons piece front =>
          cases whole
          obtain ⟨d, leads, rest⟩ := ih (List.append_assoc ..)
          exact ⟨d, .link above there leads, rest⟩

section Walk

variable [DecidableEq ν] [DecidableEq β] {e : Entry ν β}

theorem walkWith_leads {links : Nat} {next : List ν → List (Piece ν) → Option (List ν)}
    (leads : ∀ p' pieces q, next p' pieces = some q → ∃ fewer, links = fewer + 1 ∧
      Leads t fewer p' pieces q) {pieces : List (Piece ν)} {q : List ν}
    (walked : t.walkWith next p pieces = some q) : Leads t links p pieces q := by
  induction pieces generalizing p with
  | nil =>
      cases walked
      exact .here
  | cons piece rest ih =>
      by_cases directory : t.entry p = some .directory
      · cases piece with
        | stay =>
            simp only [walkWith, directory, if_true] at walked
            exact .stay directory (ih walked)
        | up =>
            simp only [walkWith, directory, if_true] at walked
            exact .up directory (ih walked)
        | name name =>
            cases there : t.entry (name :: p) with
            | none => simp [walkWith, directory, there] at walked
            | some e =>
                simp only [walkWith, directory, there, if_true] at walked
                cases e with
                | directory => exact .down directory there (by simp) (ih walked)
                | file content => exact .down directory there (by simp) (ih walked)
                | link absolute text =>
                    obtain ⟨fewer, rfl, further⟩ := leads _ _ _ walked
                    exact .link directory there further
      · cases piece <;> simp [walkWith, directory] at walked

theorem walk_iff {links : Nat} {pieces : List (Piece ν)} {q : List ν} :
    t.walk links p pieces = some q ↔ Leads t links p pieces q := by
  constructor
  · intro walked
    induction links generalizing p pieces q with
    | zero =>
        refine walkWith_leads (fun p' pieces q never => ?_) walked
        cases never
    | succ links ih => exact walkWith_leads (fun p' pieces q next => ⟨links, rfl, ih next⟩) walked
  · intro leads
    induction leads with
    | @here links p => cases links <;> rfl
    | @stay links p q rest directory further ih =>
        cases links <;> simpa [walk, walkWith, directory] using ih
    | @up links p q rest directory further ih =>
        cases links <;> simpa [walk, walkWith, directory] using ih
    | @down links p q rest name e directory there solid further ih =>
        cases e with
        | link absolute text => exact absurd rfl (solid absolute text)
        | directory => cases links <;> simpa [walk, walkWith, directory, there] using ih
        | file content => cases links <;> simpa [walk, walkWith, directory, there] using ih
    | @link links p q rest text name absolute directory there further ih =>
        simpa [walk, walkWith, directory, there] using ih

/-! ## What is created -/

theorem create_eq_none : t.create e p = none ↔ ¬ t.Vacant p := by
  unfold create
  split <;> simp_all

theorem create_vacant (vacant : t.Vacant p) : ∃ u, t.create e p = some u :=
  Option.ne_none_iff_exists'.mp fun none => create_eq_none.mp none vacant

theorem vacant_of_create (created : t.create e p = some u) : t.Vacant p := by
  by_contra taken
  rw [create_eq_none.mpr taken] at created
  cases created

theorem create_entry (created : t.create e p = some u) (q : List ν) :
    u.entry q = if q = p then some e else t.entry q := by
  unfold create at created
  split at created
  · cases created
    exact Function.update_apply ..
  · cases created

theorem create_own (created : t.create e p = some u) : u.entry p = some e := by
  rw [create_entry created, if_pos rfl]

/-- A new entry changes no other. -/
theorem create_extends (created : t.create e p = some u) : t.Extends u := by
  intro q other there
  rw [create_entry created, if_neg ?_, there]
  rintro rfl
  rw [(vacant_of_create created).free] at there
  cases there

/-- A path that gets to its end beside a new file got there before. -/
theorem Leads.before {content : β} (created : t.create (.file content) p = some u) {links : Nat}
    {from_ d : List ν} {pieces : List (Piece ν)} (leads : Leads u links from_ pieces d)
    (beside : d ≠ p) : Leads t links from_ pieces d := by
  have old {q : List ν} {e : Entry ν β} (other : e ≠ .file content) (there : u.entry q = some e) :
      t.entry q = some e := by
    rw [create_entry created] at there
    split at there
    · exact absurd (Option.some.inj there).symm other
    · exact there
  induction leads with
  | here => exact .here
  | stay directory further ih => exact .stay (old (by simp) directory) (ih beside)
  | up directory further ih => exact .up (old (by simp) directory) (ih beside)
  | @down links from_ d rest name e directory there solid further ih =>
      by_cases own : name :: from_ = p
      · -- the walk ends at the file or fails
        have file : u.entry (name :: from_) = some (.file content) := own ▸ create_own created
        cases further with
        | here => exact absurd own beside
        | stay inner | up inner | down inner | link inner =>
            rw [file] at inner
            cases inner
      · rw [create_entry created, if_neg own] at there
        exact .down (old (by simp) directory) there solid (ih beside)
  | link directory there further ih =>
      exact .link (old (by simp) directory) (old (by simp) there) (ih beside)

theorem slot_eq_some {links : Nat} {pieces : List (Piece ν)} {q : List ν} :
    t.slot links p pieces = some q ↔
      ∃ name front d, pieces = .name name :: front ∧ Leads t links p front.reverse d ∧
        t.entry d = some .directory ∧ q = name :: d := by
  constructor
  · intro found
    unfold slot at found
    split at found
    · rename_i name front
      split at found
      · rename_i d walked
        split at found
        · rename_i directory
          cases found
          exact ⟨name, front, d, rfl, walk_iff.mp walked, directory, rfl⟩
        · cases found
      · cases found
    · cases found
  · rintro ⟨name, front, d, rfl, leads, directory, rfl⟩
    simp [slot, walk_iff.mpr leads, directory]

theorem slot_extends {links : Nat} {pieces : List (Piece ν)} {q : List ν} (more : t.Extends u)
    (found : t.slot links p pieces = some q) : u.slot links p pieces = some q := by
  obtain ⟨name, front, d, rfl, leads, directory, rfl⟩ := slot_eq_some.mp found
  exact slot_eq_some.mpr ⟨name, front, d, rfl, leads.extends more, more _ _ directory, rfl⟩

/-- **Behind a new file every path's last name has the place it had.** -/
theorem slot_create {content : β} {q : List ν} (created : t.create (.file content) q = some u)
    (links : Nat) (p : List ν) (pieces : List (Piece ν)) :
    u.slot links p pieces = t.slot links p pieces := by
  refine Option.ext fun r => ⟨fun found => ?_, slot_extends (create_extends created)⟩
  obtain ⟨name, front, d, rfl, leads, directory, rfl⟩ := slot_eq_some.mp found
  have beside : d ≠ q := by
    rintro rfl
    rw [create_own created] at directory
    cases directory
  have before : t.entry d = some .directory := by
    rwa [create_entry created, if_neg beside] at directory
  exact slot_eq_some.mpr ⟨name, front, d, rfl, leads.before created beside, before, rfl⟩

/-- A path that gets to its end has something at its last name's place. -/
theorem slot_taken {links : Nat} {pieces : List (Piece ν)} {q r : List ν}
    (leads : Leads t links p pieces.reverse q) (found : t.slot links p pieces = some r) :
    t.entry r ≠ none := by
  obtain ⟨name, front, d, rfl, there, directory, rfl⟩ := slot_eq_some.mp found
  rw [List.reverse_cons] at leads
  obtain ⟨d', there', -, taken⟩ := leads.last
  obtain rfl : d = d' := by
    have same := (walk_iff.mpr there).symm.trans (walk_iff.mpr there')
    exact Option.some.inj same
  exact taken

/-- A path leads to the file that is at its last name's place. -/
theorem slot_leads {links : Nat} {pieces : List (Piece ν)} {q : List ν} {content : β}
    (found : t.slot links p pieces = some q) (file : t.entry q = some (.file content)) :
    t.walk links p pieces.reverse = some q := by
  obtain ⟨name, front, d, rfl, leads, directory, rfl⟩ := slot_eq_some.mp found
  rw [List.reverse_cons]
  exact walk_iff.mpr (leads.snoc directory file (by simp))

/-- A link gives a directory another name. -/
example :
    let tree := ((FileTree.empty.create .directory ["etc"]).bind
      (·.create (.link false [.name "etc"]) ["conf"])).getD (FileTree.empty : FileTree String Nat)
    tree.slot 40 [] [.name "key", .name "conf"] = some ["key", "etc"] := by decide +kernel

theorem slot_directory {links : Nat} {pieces : List (Piece ν)} {q : List ν}
    (found : t.slot links p pieces = some q) : t.Vacant q ↔ t.entry q = none := by
  obtain ⟨name, front, d, rfl, leads, directory, rfl⟩ := slot_eq_some.mp found
  exact and_iff_left directory

theorem createDirAll_grows (t : FileTree ν β) (links : Nat) (p : List ν) (pieces : List (Piece ν)) :
    t.Grows (t.createDirAll links p pieces) := by
  induction pieces with
  | nil => exact Grows.refl t
  | cons piece front ih =>
      refine ih.trans fun q => ?_
      rw [createDirAll]
      cases made : ((t.createDirAll links p front).slot links p (piece :: front)).bind
          ((t.createDirAll links p front).create .directory) with
      | none => exact .inl rfl
      | some u =>
          obtain ⟨place, -, created⟩ := Option.bind_eq_some_iff.mp made
          rw [Option.getD_some, create_entry created]
          split
          · rename_i own
            exact .inr ⟨own ▸ (vacant_of_create created).free, rfl⟩
          · exact .inl rfl

end Walk

end FileTree

end RustSsh.Theory
