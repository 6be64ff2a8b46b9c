/-
# Desktop.SshTable -- the managed block is a device table

The file `update_managed_ssh_config` leaves is read line by line (`Laid`): the user's
lines, a marker, the blocks with some empty lines behind each, a marker, and empty lines.
A call on such a file takes out the blocks that share the host or the device of the new
one and appends that (`updated_laid`), so a run of calls is a run of `Table.put`
(`managed_block_refines`).
-/
import RustSsh.Theory.Table
import RustSsh.Desktop.SshBlock
import RustSsh.Desktop.SshFile

namespace RustSsh.Desktop

open RustSsh.Theory

set_option autoImplicit false

/-- The lines of the file. -/
def managedLines (windows : Bool) (head : List Text) (blocks : List (HostEntry × Nat)) (n : Nat) :
    List Text :=
  head ++ managedSshBegin :: (blocks.flatMap (spaced windows) ++
    managedSshEnd :: List.replicate (n + 1) [])

/-- A file with a managed block, up to its line endings. -/
structure Laid (windows : Bool) (head : List Text) (blocks : List (HostEntry × Nat)) (n : Nat)
    (text : Text) : Prop where
  lines : normalizeLineEndings text = Text.unpieces (managedLines windows head blocks n)
  head : ∀ l ∈ head, Plain l
  valid : ∀ b ∈ blocks, b.1.Valid

/-! ## The pieces the code cuts the file into -/

theorem markers_apart : ¬ managedSshBegin <:+: managedSshEnd ∧ ¬ managedSshEnd <:+: managedSshBegin := by
  decide

theorem plain_nil : Plain [] := Plain.lacking (by simp) (by simp) (by simp)

theorem plain_replicate (n : Nat) : ∀ l ∈ List.replicate n ([] : Text), Plain l := by
  intro l member
  rw [List.eq_of_mem_replicate member]
  exact plain_nil

theorem plain_blocks {windows : Bool} {blocks : List (HostEntry × Nat)}
    (valid : ∀ b ∈ blocks, b.1.Valid) : ∀ l ∈ blocks.flatMap (spaced windows), Plain l := by
  intro l member
  obtain ⟨b, inside, own⟩ := List.mem_flatMap.mp member
  exact spaced_plain windows (valid b inside) l own

theorem isMarker_begin : IsMarker managedSshBegin := .inl rfl
theorem isMarker_end : IsMarker managedSshEnd := .inr rfl

/-- The file from the user's lines to what stands behind the end marker. -/
theorem managed_split (windows : Bool) (head : List Text) (blocks : List (HostEntry × Nat)) (n : Nat) :
    Text.unpieces (managedLines windows head blocks n) =
      Text.unpieces (head ++ [[]]) ++ managedSshBegin ++
        (Text.unpieces ([] :: blocks.flatMap (spaced windows) ++ [[]]) ++ managedSshEnd ++
          '\n' :: Text.unpieces (List.replicate (n + 1) [])) := by
  rw [managedLines, Text.unpieces_line head managedSshBegin (by simp)]
  congr 1
  have inner : Text.unpieces ([] :: blocks.flatMap (spaced windows) ++
      managedSshEnd :: List.replicate (n + 1) []) = _ := Text.unpieces_line _ _ (by simp)
  rw [← inner, List.cons_append, Text.unpieces_cons (by simp)]
  rfl

theorem lines_body {windows : Bool} {blocks : List (HostEntry × Nat)}
    (valid : ∀ b ∈ blocks, b.1.Valid) :
    (Text.unpieces ([] :: blocks.flatMap (spaced windows) ++ [[]])).lines =
      [] :: blocks.flatMap (spaced windows) := by
  have plain : ∀ l ∈ [] :: blocks.flatMap (spaced windows) ++ [[]], Plain l := by
    intro l member
    simp only [List.cons_append, List.mem_cons, List.mem_append, List.not_mem_nil, or_false] at member
    rcases member with rfl | own | rfl
    · exact plain_nil
    · exact plain_blocks valid l own
    · exact plain_nil
  rw [Text.lines_unpieces (by simp) (fun l member => (plain l member).flat)
    (fun l member => (plain l member).noReturn), List.dropLast_concat, List.getLast?_concat]
  simp

/-- The managed body is cut back into its blocks. -/
theorem splitHostBlocks_body {windows : Bool} {blocks : List (HostEntry × Nat)}
    (valid : ∀ b ∈ blocks, b.1.Valid) :
    splitHostBlocks (Text.unpieces ([] :: blocks.flatMap (spaced windows) ++ [[]])) =
      blocks.map fun b => Text.unpieces (spaced windows b) := by
  rw [splitHostBlocks, lines_body valid, splitFrom, if_neg (by simp), if_pos (by simp [Text.blank]),
    splitFrom_spaced]
  simp

/-- Joined by an empty line, every block gets one more behind it. -/
theorem join_spaced (windows : Bool) (blocks : List (HostEntry × Nat)) {last : List Text}
    (nonempty : last ≠ []) :
    ['\n', '\n'].intercalate ((blocks.map fun b => Text.unpieces (spaced windows b)) ++
        [Text.unpieces last]) =
      Text.unpieces ((blocks.map fun b => (b.1, b.2 + 1)).flatMap (spaced windows) ++ last) := by
  induction blocks with
  | nil => simp
  | cons b rest ih =>
      have wider : spaced windows (b.1, b.2 + 1) = spaced windows b ++ [[]] := by
        rw [spaced, List.replicate_succ', ← List.append_assoc]
        rfl
      rw [List.map_cons, List.cons_append, List.intercalate_cons_of_ne_nil (by simp), ih,
        List.map_cons, List.flatMap_cons, wider, List.append_assoc (spaced windows b),
        List.append_assoc (spaced windows b), Text.unpieces_append (spaced_ne_nil windows b) (by simp),
        List.append_assoc [[]], List.singleton_append, Text.unpieces_cons (by simp [nonempty])]
      simp

/-! ## The new block -/

theorem lines_flat (windows : Bool) {e : HostEntry} (valid : e.Valid) :
    '\r' ∉ Text.unpieces (e.lines windows) := by
  intro inside
  cases Text.mem_unpieces inside with
  | inl newline => cases newline
  | inr other =>
      obtain ⟨l, member, there⟩ := other
      exact (valid.plain windows l member).noReturn there

/-- Lines joined with the line ending of Windows are lines whose newlines were replaced. -/
theorem intercalate_windows {ls : List Text} (flat : ∀ l ∈ ls, '\n' ∉ l) :
    ['\r', '\n'].intercalate ls = (Text.unpieces ls).replace ['\n'] ['\r', '\n'] := by
  have one (l : Text) (flat : '\n' ∉ l) :
      (l.flatMap fun d => if d = '\n' then ['\r', '\n'] else [d]) = l := by
    induction l with
    | nil => rfl
    | cons c rest ih =>
        rw [List.mem_cons, not_or] at flat
        rw [List.flatMap_cons, if_neg (Ne.symm flat.1), ih flat.2]
        rfl
  rw [Text.replace_char]
  induction ls with
  | nil => rfl
  | cons l rest ih =>
      have here := one l (flat l List.mem_cons_self)
      by_cases last : rest = []
      · simp [last, here]
      · rw [List.intercalate_cons_of_ne_nil last, Text.unpieces_cons last, List.flatMap_append, here,
          List.flatMap_cons, ih fun k member => flat k (List.mem_cons_of_mem _ member)]
        simp

/-- The block as the code normalizes it: its lines, without the last line ending. -/
theorem hostBlock_normalized {windows : Bool} {e : HostEntry} (valid : e.Valid) :
    (normalizeLineEndings (sshHostBlock windows e)).trimEnd = Text.unpieces (e.lines windows) := by
  have flat : ∀ l ∈ e.lines windows, '\n' ∉ l := fun l member => (valid.plain windows l member).flat
  have plain := lines_flat windows valid
  have normal : normalizeLineEndings (sshHostBlock windows e) =
      Text.unpieces (e.lines windows) ++ ['\n'] := by
    cases windows with
    | false =>
        apply normalize_of_plain
        simpa [sshHostBlock, lineEnding, Text.unpieces] using plain
    | true =>
        have whole : sshHostBlock true e =
            (Text.unpieces (e.lines true) ++ ['\n']).replace ['\n'] ['\r', '\n'] := by
          rw [sshHostBlock, lineEnding, if_pos rfl, intercalate_windows flat, Text.replace_char,
            Text.replace_char, List.flatMap_append]
          rfl
        rw [whole, normalize_windows (by simp [plain])]
  have quoted : ∃ front, Text.unpieces (e.lines windows) = front ++ ['"'] := by
    have last : e.lines windows = (e.lines windows).dropLast ++ [(e.lines windows).getLast
        (lines_ne_nil windows e)] := (List.dropLast_append_getLast _).symm
    rw [last, Text.unpieces_append (by simp [HostEntry.lines]) (by simp), Text.unpieces_singleton]
    refine ⟨Text.unpieces (e.lines windows).dropLast ++ '\n' :: (("\tProxyCommand ".toList ++
      shellDoubleQuote windows e.executable ++ " --proxy --setup-code-file ".toList ++
      shellDoubleQuote windows e.setupCodePath ++ " --target ".toList ++
      '"' :: e.deviceId.flatMap (quoteChar windows))), ?_⟩
    simp [HostEntry.lines, shellDoubleQuote_eq windows e.deviceId]
  obtain ⟨front, ends⟩ := quoted
  rw [normal, Text.trimEnd_spaces (by simp [Text.isWhitespace]), ends]
  exact Text.trimEnd_snoc (by decide)

/-- The newline a call leaves behind the end marker. -/
theorem unpieces_more (n : Nat) : '\n' :: Text.unpieces (List.replicate (n + 1) []) =
    Text.unpieces (List.replicate (n + 1 + 1) []) := by
  rw [List.replicate_succ (n := n + 1), Text.unpieces_cons (by simp)]
  rfl

/-- The pieces the code puts around the blocks. -/
theorem managed_join (head : List Text) {ls : List Text} (nonempty : ls ≠ []) {rest : List Text}
    (more : rest ≠ []) :
    Text.unpieces (head ++ [[]]) ++ (managedSshBegin ++ ['\n'] ++ Text.unpieces ls ++ ['\n'] ++
        managedSshEnd ++ ['\n']) ++ Text.unpieces rest =
      Text.unpieces (head ++ managedSshBegin :: (ls ++ managedSshEnd :: rest)) := by
  rw [Text.unpieces_line head managedSshBegin (by simp), Text.unpieces_append nonempty (by simp),
    Text.unpieces_cons more]
  simp

/-! ## A call -/

theorem normalize_written {windows : Bool} {t : Text} (plain : '\r' ∉ t) :
    normalizeLineEndings (if windows then t.replace ['\n'] ['\r', '\n'] else t) = t := by
  cases windows with
  | false => exact normalize_of_plain plain
  | true => exact normalize_windows plain

theorem managed_noReturn {windows : Bool} {head : List Text} {blocks : List (HostEntry × Nat)}
    (plain : ∀ l ∈ head, Plain l) (valid : ∀ b ∈ blocks, b.1.Valid) (n : Nat) :
    '\r' ∉ Text.unpieces (managedLines windows head blocks n) := by
  intro inside
  cases Text.mem_unpieces inside with
  | inl newline => cases newline
  | inr other =>
      obtain ⟨l, member, there⟩ := other
      simp only [managedLines, List.mem_append, List.mem_cons] at member
      rcases member with user | rfl | own | rfl | empty
      · exact (plain l user).noReturn there
      · exact isMarker_begin.noReturn there
      · exact (plain_blocks valid l own).noReturn there
      · exact isMarker_end.noReturn there
      · exact (plain_replicate (n + 1) l empty).noReturn there

/-- The blocks after the call, each kept one with one more empty line. -/
def putBlock (blocks : List (HostEntry × Nat)) (e : HostEntry) : List (HostEntry × Nat) :=
  ((blocks.filter fun b => b.1.host ≠ e.host ∧ b.1.deviceId ≠ e.deviceId).map
    fun b => (b.1, b.2 + 1)) ++ [(e, 0)]

theorem putBlock_valid {blocks : List (HostEntry × Nat)} (valid : ∀ b ∈ blocks, b.1.Valid)
    {e : HostEntry} (new : e.Valid) : ∀ b ∈ putBlock blocks e, b.1.Valid := by
  intro b member
  cases List.mem_append.mp member with
  | inl kept =>
      obtain ⟨old, inside, rfl⟩ := List.mem_map.mp kept
      exact valid old (List.mem_of_mem_filter inside)
  | inr last =>
      rw [List.mem_singleton.mp last]
      exact new

/-- The code's filter keeps the blocks of other hosts and other devices. -/
theorem filter_spaced {windows : Bool} {blocks : List (HostEntry × Nat)}
    (valid : ∀ b ∈ blocks, b.1.Valid) (e : HostEntry) :
    ((blocks.map fun b => Text.unpieces (spaced windows b)).filter fun block =>
        !sameHost e.host block && !sameDevice e.deviceId block) =
      (blocks.filter fun b => b.1.host ≠ e.host ∧ b.1.deviceId ≠ e.deviceId).map
        fun b => Text.unpieces (spaced windows b) := by
  rw [List.filter_map]
  congr 1
  apply List.filter_congr
  intro b member
  have known := valid b member
  by_cases host : b.1.host = e.host
  · simp [sameHost_spaced known, host]
  · by_cases device : b.1.deviceId = e.deviceId
    · simp [sameDevice_spaced known, device]
    · simp [sameHost_spaced known, sameDevice_spaced known, host, device]

theorem updated_laid {windows : Bool} {head : List Text} {blocks : List (HostEntry × Nat)} {n : Nat}
    {text : Text} (laid : Laid windows head blocks n text) {e : HostEntry} (new : e.Valid) :
    ∃ text', updatedConfig windows text (sshHostBlock windows e) e.deviceId e.host = .ok text' ∧
      Laid windows head (putBlock blocks e) (n + 1) text' := by
  have split := laid.lines.trans (managed_split windows head blocks n)
  have first := (Text.find_line isMarker_begin.flat isMarker_begin.ne_nil
    (fun l member => (laid.head l member).unmarked _ isMarker_begin)
    (Text.unpieces ([] :: blocks.flatMap (spaced windows) ++ [[]]) ++ managedSshEnd ++
      '\n' :: Text.unpieces (List.replicate (n + 1) []))).1
  have inner : ∀ l ∈ [] :: blocks.flatMap (spaced windows), ¬ managedSshEnd <:+: l := by
    intro l member
    cases List.mem_cons.mp member with
    | inl empty =>
        rw [empty]
        exact plain_nil.unmarked _ isMarker_end
    | inr own => exact (plain_blocks laid.valid l own).unmarked _ isMarker_end
  have last := (Text.find_line isMarker_end.flat isMarker_end.ne_nil inner
    ('\n' :: Text.unpieces (List.replicate (n + 1) []))).1
  refine ⟨_, updatedConfig_marked split first last, ?_, laid.head, putBlock_valid laid.valid new⟩
  rw [splitHostBlocks_body laid.valid, filter_spaced laid.valid, hostBlock_normalized new,
    join_spaced windows _ (lines_ne_nil windows e)]
  have body : (((blocks.filter fun b => b.1.host ≠ e.host ∧ b.1.deviceId ≠ e.deviceId).map
      fun b => (b.1, b.2 + 1)).flatMap (spaced windows) ++ e.lines windows) =
      (putBlock blocks e).flatMap (spaced windows) := by
    simp [putBlock, spaced]
  rw [body, unpieces_more, managed_join head (by simp [putBlock, spaced_ne_nil]) (by simp)]
  exact normalize_written (managed_noReturn laid.head (putBlock_valid laid.valid new) (n + 1))

/-- The user's lines in front of the first block. -/
def userLines (original : Text) : List Text :=
  let kept := (normalizeLineEndings original).trimEnd
  if kept = [] then [] else Text.pieces kept ++ [[]]

/-- Neither marker is in the text. -/
def Unmarked (t : Text) : Prop := ∀ marker, IsMarker marker → ¬ marker <:+: t

theorem userLines_plain {original : Text} (unmarked : Unmarked original) :
    ∀ l ∈ userLines original, Plain l := by
  intro l member
  obtain ⟨spaces, split, -⟩ := Text.trimEnd_split (normalizeLineEndings original)
  have inside : ∀ c ∈ (normalizeLineEndings original).trimEnd, c ∈ normalizeLineEndings original := by
    intro c here
    rw [split]
    exact List.mem_append_left _ here
  unfold userLines at member
  simp only at member
  split at member
  · cases member
  · cases List.mem_append.mp member with
    | inr empty =>
        rw [List.mem_singleton.mp empty]
        exact plain_nil
    | inl own =>
        refine ⟨Text.pieces_no_newline own, ?_, ?_⟩
        · intro carriage
          exact normalize_plain original (inside _ (Text.mem_pieces own carriage))
        · intro marker is found
          have known : marker <:+: (normalizeLineEndings original).trimEnd := by
            rw [← Text.unpieces_pieces (normalizeLineEndings original).trimEnd,
              Text.infix_unpieces is.flat is.ne_nil]
            exact ⟨l, own, found⟩
          apply unmarked marker is
          rw [← infix_normalize is.flat is.noReturn is.ne_nil, split]
          exact known.trans (List.prefix_append _ _).isInfix

theorem unpieces_userLines (original : Text) :
    Text.unpieces (userLines original ++ [[]]) =
      if (normalizeLineEndings original).trimEnd = [] then []
      else (normalizeLineEndings original).trimEnd ++ ['\n', '\n'] := by
  unfold userLines
  simp only
  split
  · rfl
  · rw [Text.unpieces_append (by simp) (by simp), Text.unpieces_append (Text.pieces_ne_nil _) (by simp)]
    simp

/-- The first call puts one block behind the user's lines. -/
theorem first_laid (windows : Bool) {original : Text} (unmarked : Unmarked original) {e : HostEntry}
    (new : e.Valid) :
    ∃ text', updatedConfig windows original (sshHostBlock windows e) e.deviceId e.host = .ok text' ∧
      Laid windows (userLines original) [(e, 0)] 0 text' := by
  have plain := userLines_plain unmarked
  have valid : ∀ b ∈ [(e, 0)], b.1.Valid := by
    intro b member
    rw [List.mem_singleton.mp member]
    exact new
  have absent : Text.find (normalizeLineEndings original) managedSshBegin = none := by
    apply Text.find_none_of
    intro found
    exact unmarked _ isMarker_begin
      ((infix_normalize isMarker_begin.flat isMarker_begin.noReturn isMarker_begin.ne_nil).mp found)
  refine ⟨_, updatedConfig_unmarked absent, ?_, plain, valid⟩
  rw [hostBlock_normalized new, ← unpieces_userLines]
  have whole := managed_join (userLines original) (lines_ne_nil windows e)
    (List.cons_ne_nil ([] : Text) [])
  rw [Text.unpieces_singleton, List.append_nil] at whole
  have body : e.lines windows = [(e, 0)].flatMap (spaced windows) := by simp [spaced]
  rw [whole, body]
  exact normalize_written (managed_noReturn plain valid 0)

/-! ## What the file shows -/

/-- The lines that are not blank. -/
def solidLines (t : Text) : List Text := t.lines.filter fun l => !Text.blank l

/-- The file has one managed block, which is the table up to blank lines, and around it what
the user had. -/
structure ShowsTable (windows : Bool) (original text : Text) (table : List HostEntry) : Prop where
  oneBegin : text.occurrences managedSshBegin = 1
  oneEnd : text.occurrences managedSshEnd = 1
  shown : ∃ before body after,
    normalizeLineEndings text = before ++ managedSshBegin ++ body ++ managedSshEnd ++ after ∧
    (splitHostBlocks body).map solidLines = table.map (HostEntry.lines windows) ∧
    solidLines body = table.flatMap (HostEntry.lines windows) ∧
    solidLines before ++ solidLines after = solidLines (normalizeLineEndings original).trimEnd

theorem solidLines_plain {t : Text} (plain : '\r' ∉ t) :
    solidLines t = (Text.pieces t).filter fun l => !Text.blank l := by
  have split : Text.pieces t = (Text.pieces t).dropLast ++ (Text.pieces t).getLast?.toList := by
    rw [List.getLast?_eq_some_getLast (Text.pieces_ne_nil t)]
    exact (List.dropLast_append_getLast _).symm
  rw [solidLines, Text.lines_plain plain]
  conv_rhs => rw [split]
  rw [List.filter_append, List.filter_append, List.filter_filter]
  congr 1
  apply List.filter_congr
  intro l member
  by_cases empty : l = []
  · simp [empty, Text.blank]
  · simp [empty]

theorem solidLines_unpieces {ls : List Text} (plain : ∀ l ∈ ls, Plain l) (nonempty : ls ≠ []) :
    solidLines (Text.unpieces ls) = ls.filter fun l => !Text.blank l := by
  have no_return : '\r' ∉ Text.unpieces ls := by
    intro inside
    cases Text.mem_unpieces inside with
    | inl newline => cases newline
    | inr other =>
        obtain ⟨l, member, there⟩ := other
        exact (plain l member).noReturn there
  rw [solidLines_plain no_return, Text.pieces_unpieces nonempty fun l member => (plain l member).flat]

theorem solid_replicate (n : Nat) :
    (List.replicate n ([] : Text)).filter (fun l => !Text.blank l) = [] := by
  rw [List.filter_eq_nil_iff]
  intro l member
  rw [List.eq_of_mem_replicate member]
  simp [Text.blank]

theorem solid_spaced (windows : Bool) (b : HostEntry × Nat) :
    (spaced windows b).filter (fun l => !Text.blank l) = b.1.lines windows := by
  rw [spaced, List.filter_append, solid_replicate, List.append_nil, List.filter_eq_self]
  intro l member
  simp [lines_not_blank windows b.1 l member]

section

variable {windows : Bool} {original text : Text} {blocks : List (HostEntry × Nat)} {n : Nat}

theorem laid_oneBegin {head : List Text} (laid : Laid windows head blocks n text) :
    text.occurrences managedSshBegin = 1 := by
  rw [← occurrences_normalize isMarker_begin.flat isMarker_begin.noReturn isMarker_begin.ne_nil,
    laid.lines]
  apply Text.occurrences_line isMarker_begin.flat isMarker_begin.ne_nil
  · intro l member
    exact (laid.head l member).unmarked _ isMarker_begin
  · intro l member
    simp only [List.mem_append, List.mem_cons] at member
    rcases member with block | rfl | blank
    · exact (plain_blocks laid.valid l block).unmarked _ isMarker_begin
    · exact markers_apart.1
    · exact (plain_replicate (n + 1) l blank).unmarked _ isMarker_begin
  · simp

theorem laid_oneEnd {head : List Text} (laid : Laid windows head blocks n text) :
    text.occurrences managedSshEnd = 1 := by
  rw [← occurrences_normalize isMarker_end.flat isMarker_end.noReturn isMarker_end.ne_nil,
    laid.lines, managedLines, ← List.cons_append, ← List.append_assoc]
  apply Text.occurrences_line isMarker_end.flat isMarker_end.ne_nil
  · intro l member
    simp only [List.mem_append, List.mem_cons] at member
    rcases member with user | rfl | block
    · exact (laid.head l user).unmarked _ isMarker_end
    · exact markers_apart.2
    · exact (plain_blocks laid.valid l block).unmarked _ isMarker_end
  · intro l member
    exact (plain_replicate (n + 1) l member).unmarked _ isMarker_end
  · simp

/-- Cut apart, the body is the blocks' lines and blank ones. -/
theorem solid_blocks (valid : ∀ b ∈ blocks, b.1.Valid) :
    (splitHostBlocks (Text.unpieces ([] :: blocks.flatMap (spaced windows) ++ [[]]))).map solidLines =
      (blocks.map Prod.fst).map (HostEntry.lines windows) := by
  rw [splitHostBlocks_body valid, List.map_map, List.map_map]
  apply List.map_congr_left
  intro b member
  show solidLines (Text.unpieces (spaced windows b)) = b.1.lines windows
  rw [solidLines_unpieces (spaced_plain windows (valid b member)) (spaced_ne_nil windows b), solid_spaced]

theorem solid_body (valid : ∀ b ∈ blocks, b.1.Valid) :
    solidLines (Text.unpieces ([] :: blocks.flatMap (spaced windows) ++ [[]])) =
      (blocks.map Prod.fst).flatMap (HostEntry.lines windows) := by
  rw [solidLines, lines_body valid, List.filter_cons_of_neg (by simp [Text.blank]),
    List.filter_flatMap, List.flatMap_map]
  apply List.flatMap_congr
  intro b member
  exact solid_spaced windows b

/-- Around the block stand the user's lines and blank ones. -/
theorem solid_user (plain : ∀ l ∈ userLines original, Plain l) (n : Nat) :
    solidLines (Text.unpieces (userLines original ++ [[]])) ++
        solidLines ('\n' :: Text.unpieces (List.replicate (n + 1) [])) =
      solidLines (normalizeLineEndings original).trimEnd := by
  have outside : ∀ l ∈ userLines original ++ [[]], Plain l := by
    intro l member
    cases List.mem_append.mp member with
    | inl own => exact plain l own
    | inr blank =>
        rw [List.mem_singleton.mp blank]
        exact plain_nil
  have no_return : '\r' ∉ (normalizeLineEndings original).trimEnd :=
    fun inside => normalize_plain original ((List.rdropWhile_prefix _ _).subset inside)
  rw [unpieces_more, solidLines_unpieces outside (by simp), solidLines_unpieces (plain_replicate _) (by simp),
    solid_replicate, List.append_nil, List.filter_append, solidLines_plain no_return, userLines]
  split
  · rename_i nothing
    simp [nothing, Text.blank]
  · simp [Text.blank]

theorem laid_shows (laid : Laid windows (userLines original) blocks n text) :
    ShowsTable windows original text (blocks.map Prod.fst) := by
  refine ⟨laid_oneBegin laid, laid_oneEnd laid, Text.unpieces (userLines original ++ [[]]),
    Text.unpieces ([] :: blocks.flatMap (spaced windows) ++ [[]]),
    '\n' :: Text.unpieces (List.replicate (n + 1) []), ?_, solid_blocks laid.valid,
    solid_body laid.valid, solid_user laid.head n⟩
  rw [laid.lines, managed_split]
  simp only [List.append_assoc]

end

/-! ## Runs of calls -/

/-- The calls one after the other, on a file system where nothing fails. -/
def runUpdates (windows : Bool) (path : ConfigPath) :
    Option Bytes → List HostEntry → Except String (Option Bytes)
  | file, [] => .ok file
  | file, e :: rest =>
      match updateManagedSshConfig windows ⟨none, 0⟩ path file (sshHostBlock windows e) e.deviceId
        e.host with
      | (.ok (), file) => runUpdates windows path file rest
      | (.error error, _) => .error error

theorem putBlock_table (blocks : List (HostEntry × Nat)) (e : HostEntry) :
    (putBlock blocks e).map Prod.fst =
      Table.put HostEntry.host HostEntry.deviceId (blocks.map Prod.fst) e := by
  rw [putBlock, Table.put, List.map_append, List.map_map, List.filter_map]
  rfl

theorem run_laid {windows : Bool} (path : ConfigPath) {head : List Text}
    {blocks : List (HostEntry × Nat)} {n : Nat} {text : Text}
    (laid : Laid windows head blocks n text) {calls : List HostEntry}
    (valid : ∀ e ∈ calls, e.Valid) :
    ∃ text' blocks' n', runUpdates windows path (some (Text.encode text)) calls =
        .ok (some (Text.encode text')) ∧
      Laid windows head blocks' n' text' ∧
      blocks'.map Prod.fst =
        calls.foldl (Table.put HostEntry.host HostEntry.deviceId) (blocks.map Prod.fst) := by
  induction calls generalizing blocks n text with
  | nil => exact ⟨text, blocks, n, rfl, laid, rfl⟩
  | cons e rest ih =>
      obtain ⟨mid, done, after⟩ := updated_laid laid (valid e List.mem_cons_self)
      have call : updateManagedSshConfig windows ⟨none, 0⟩ path (some (Text.encode text)) _ _ _ = _ :=
        updateManagedSshConfig_ok (Text.decode_encode text) done
      obtain ⟨text', blocks', n', run, laid', table⟩ :=
        ih after fun other member => valid other (List.mem_cons_of_mem _ member)
      refine ⟨text', blocks', n', ?_, laid', ?_⟩
      · rw [runUpdates, call]
        exact run
      · rw [table, putBlock_table]
        rfl

/-- **The managed block is a device table.**  After any calls with generated blocks on a
config without markers, the file shows the table that the same calls make of the empty
one, in which no host and no device occurs twice. -/
theorem managed_block_refines {windows : Bool} {path : ConfigPath} {file : Option Bytes}
    {original : Text} (read : existingText file = some original) (unmarked : Unmarked original)
    {calls : List HostEntry} (valid : ∀ e ∈ calls, e.Valid) (called : calls ≠ []) :
    ∃ text, runUpdates windows path file calls = .ok (some (Text.encode text)) ∧
      ShowsTable windows original text
        (calls.foldl (Table.put HostEntry.host HostEntry.deviceId) []) ∧
      Table.Unique HostEntry.host HostEntry.deviceId
        (calls.foldl (Table.put HostEntry.host HostEntry.deviceId) []) := by
  cases calls with
  | nil => exact absurd rfl called
  | cons e rest =>
      obtain ⟨first, done, laid⟩ := first_laid windows unmarked
        (valid e List.mem_cons_self)
      obtain ⟨text, blocks, n, run, laid', table⟩ := run_laid path laid
        fun other member => valid other (List.mem_cons_of_mem _ member)
      have unique := (Table.unique_nil HostEntry.host HostEntry.deviceId).puts (e :: rest)
      refine ⟨text, ?_, ?_, unique⟩
      · rw [runUpdates, updateManagedSshConfig_ok read done]
        exact run
      · have shows := laid_shows laid'
        rw [table] at shows
        exact shows

/-- Two devices of one user. -/
def deviceEntry (host deviceId : Text) : HostEntry :=
  ⟨host, deviceId, "me".toList, "/opt/rust-ssh connect".toList, "/home/me/connect.setup".toList⟩

def desk : HostEntry := deviceEntry "desk".toList "rssh-a".toList
def lab : HostEntry := deviceEntry "lab".toList "rssh-b".toList
def renamedDesk : HostEntry := deviceEntry "office".toList "rssh-a".toList

theorem deviceEntry_valid {host deviceId : Text} (named : validHostAlias host = true)
    (valid : Protocol.DeviceId.isValid (String.ofList deviceId) = true) :
    (deviceEntry host deviceId).Valid := by
  have user : validateSshUser "me".toList = .ok () := by decide
  have executable : Plain "/opt/rust-ssh connect".toList :=
    Plain.lacking (by decide) (by decide) (by decide)
  have setup : Plain "/home/me/connect.setup".toList :=
    Plain.lacking (by decide) (by decide) (by decide)
  exact ⟨named, valid, user, executable, setup⟩

theorem managed_block_refines_renamed :
    ∃ text, runUpdates false userPath userConfig [desk, lab, renamedDesk] =
        .ok (some (Text.encode text)) ∧
      ShowsTable false "Host work\n\tUser me\n".toList text
        ([desk, lab, renamedDesk].foldl (Table.put HostEntry.host HostEntry.deviceId) []) ∧
      Table.Unique HostEntry.host HostEntry.deviceId
        ([desk, lab, renamedDesk].foldl (Table.put HostEntry.host HostEntry.deviceId) []) := by
  have unmarked : Unmarked "Host work\n\tUser me\n".toList := by
    intro marker is
    obtain ⟨⟨rest, rfl⟩, -⟩ := is.shape
    exact Text.not_infix_of_lacks List.mem_cons_self (by decide)
  have valid : ∀ e ∈ [desk, lab, renamedDesk], e.Valid := by
    intro e member
    simp only [List.mem_cons, List.not_mem_nil, or_false] at member
    rcases member with rfl | rfl | rfl
    · exact deviceEntry_valid (by decide) (by decide)
    · exact deviceEntry_valid (by decide) (by decide)
    · exact deviceEntry_valid (by decide) (by decide)
  have read : existingText userConfig = some "Host work\n\tUser me\n".toList := Text.decode_encode _
  exact managed_block_refines read unmarked valid (by simp)

/-- The renamed device has lost its old block. -/
example : [desk, lab, renamedDesk].foldl (Table.put HostEntry.host HostEntry.deviceId) [] =
    [lab, renamedDesk] := by decide

end RustSsh.Desktop
