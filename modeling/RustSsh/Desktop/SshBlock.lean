/-
# Desktop.SshBlock -- the lines of a generated block

What `install_ssh_host` checks before it builds a block, and what follows for the lines of
the block: none has a line break or a marker (`HostEntry.Valid.plain`), the first names
the host and is the only one at the margin, and the key alias names the device
(`sameHost_block`, `sameDevice_block`).
-/
import RustSsh.Desktop.SshText
import RustSsh.Protocol.DeviceId

namespace RustSsh.Desktop

open RustSsh.Theory RustSsh.Protocol

set_option autoImplicit false

/-! ## What is checked -/

def validHostAlias (name : Text) : Bool :=
  !name.isEmpty && (utf8 (String.ofList name)).length ≤ 255 && name.all DeviceId.allowedChar

/-- `char::is_control`. -/
def isControl (c : Char) : Bool := c.toNat ≤ 0x1F || (0x7F ≤ c.toNat && c.toNat ≤ 0x9F)

def validateSshUser (user : Text) : Except String Unit :=
  if user.any fun c => Text.isWhitespace c || isControl c then
    .error "SSH 用户名不能包含空白或控制字符"
  else .ok ()

def IsMarker (t : Text) : Prop := t = managedSshBegin ∨ t = managedSshEnd

/-- No line break and no marker. -/
structure Plain (t : Text) : Prop where
  flat : '\n' ∉ t
  noReturn : '\r' ∉ t
  unmarked : ∀ marker, IsMarker marker → ¬ marker <:+: t

structure HostEntry.Valid (e : HostEntry) : Prop where
  host : validHostAlias e.host = true
  deviceId : DeviceId.isValid (String.ofList e.deviceId) = true
  user : validateSshUser e.user = .ok ()
  executable : Plain e.executable
  setupCodePath : Plain e.setupCodePath

/-! ## Markers -/

/-- A character that cannot end a line and that a shell does not quote. -/
def plainChar (c : Char) : Bool :=
  c != '\n' && c != '\r' && c != '"' && c != '\\' && c != '$' && c != Char.ofNat 96

/-- A marker starts with `#`, has a blank, and has nothing a shell quotes. -/
theorem IsMarker.shape {marker : Text} (is : IsMarker marker) :
    (∃ rest, marker = '#' :: rest) ∧ ' ' ∈ marker ∧
      ∀ c ∈ marker, c ≠ '\n' ∧ c ≠ '\r' ∧ c ≠ '"' ∧ c ≠ '\\' ∧ c ≠ '$' ∧ c ≠ Char.ofNat 96 := by
  have shape : (∃ rest, marker = '#' :: rest) ∧ ' ' ∈ marker ∧ marker.all plainChar = true := by
    cases is with
    | inl first =>
        subst first
        exact ⟨⟨_, rfl⟩, by decide, by decide⟩
    | inr last =>
        subst last
        exact ⟨⟨_, rfl⟩, by decide, by decide⟩
  refine ⟨shape.1, shape.2.1, fun c inside => ?_⟩
  simpa [plainChar, and_assoc] using List.all_eq_true.mp shape.2.2 c inside

theorem IsMarker.ne_nil {marker : Text} (is : IsMarker marker) : marker ≠ [] := by
  obtain ⟨⟨rest, rfl⟩, -⟩ := is.shape
  simp

theorem IsMarker.flat {marker : Text} (is : IsMarker marker) : '\n' ∉ marker :=
  fun inside => (is.shape.2.2 _ inside).1 rfl

theorem IsMarker.noReturn {marker : Text} (is : IsMarker marker) : '\r' ∉ marker :=
  fun inside => (is.shape.2.2 _ inside).2.1 rfl

theorem Plain.lacking {t : Text} (flat : '\n' ∉ t) (noReturn : '\r' ∉ t) (lacks : '#' ∉ t) :
    Plain t := by
  refine ⟨flat, noReturn, ?_⟩
  intro marker is
  obtain ⟨⟨rest, rfl⟩, -⟩ := is.shape
  exact Text.not_infix_of_lacks List.mem_cons_self lacks

theorem Plain.after {s t : Text} (flat : '\n' ∉ s) (noReturn : '\r' ∉ s) (lacks : '#' ∉ s)
    (plain : Plain t) : Plain (s ++ t) := by
  refine ⟨by simp [flat, plain.flat], by simp [noReturn, plain.noReturn], ?_⟩
  intro marker is
  have unmarked := plain.unmarked marker is
  obtain ⟨⟨rest, rfl⟩, -⟩ := is.shape
  exact Text.not_infix_append lacks unmarked

/-! ## Quoting -/

/-- What stands for a character between the quotes. -/
def quoteChar (windows : Bool) (c : Char) : Text :=
  if windows then if c = '"' then ['"', '"'] else [c]
  else if c = '"' ∨ c = '\\' ∨ c = '$' ∨ c = Char.ofNat 96 then ['\\', c] else [c]

theorem shellDoubleQuote_eq (windows : Bool) (value : Text) :
    shellDoubleQuote windows value = '"' :: (value.flatMap (quoteChar windows) ++ ['"']) := by
  cases windows with
  | false => rfl
  | true =>
      simp only [shellDoubleQuote, if_true, Text.replace_char]
      rfl

theorem quoteChar_subset (windows : Bool) (c : Char) {d : Char} (inside : d ∈ quoteChar windows c) :
    d = c ∨ d = '"' ∨ d = '\\' := by
  unfold quoteChar at inside
  grind

theorem quoteChar_escapes (windows : Bool) {marker : Text} (is : IsMarker marker) (c : Char) :
    quoteChar windows c = [c] ∨
      c ∉ marker ∧ ∃ lead ∉ marker, quoteChar windows c = [lead, c] := by
  have lacks := is.shape.2.2
  unfold quoteChar
  grind

theorem Plain.quoted (windows : Bool) {value more : Text} (plain : Plain value) (rest : Plain more) :
    Plain (shellDoubleQuote windows value ++ more) := by
  have foreign {c : Char} (lacks : c ∉ value) (quote : c ≠ '"') (backslash : c ≠ '\\') :
      c ∉ value.flatMap (quoteChar windows) := by
    rw [List.mem_flatMap]
    rintro ⟨d, inside, written⟩
    have origin := quoteChar_subset windows d written
    grind
  have shape : shellDoubleQuote windows value ++ more =
      [] ++ '"' :: (value.flatMap (quoteChar windows) ++ '"' :: more) := by
    simp [shellDoubleQuote_eq]
  rw [shape]
  refine ⟨?_, ?_, ?_⟩
  · have := foreign plain.flat (by decide) (by decide)
    simp_all [rest.flat]
  · have := foreign plain.noReturn (by decide) (by decide)
    simp_all [rest.noReturn]
  · intro marker is
    have quote : '"' ∉ marker := fun inside => (is.shape.2.2 _ inside).2.2.1 rfl
    rw [Text.infix_separator quote is.ne_nil, Text.infix_separator quote is.ne_nil, not_or, not_or]
    refine ⟨?_, ?_, rest.unmarked marker is⟩
    · rw [List.infix_nil]
      exact is.ne_nil
    · intro found
      exact plain.unmarked marker is
        (Text.infix_flatMap is.ne_nil (quoteChar_escapes windows is) found)

/-! ## The lines -/

theorem allowedChar_solid {c : Char} (allowed : DeviceId.allowedChar c = true) :
    Text.isWhitespace c = false ∧ c ≠ '#' := by
  refine ⟨DeviceId.allowedChar_not_whitespace allowed, ?_⟩
  rintro rfl
  exact absurd allowed (by decide)

theorem solid_plain {t : Text}
    (solid : ∀ c ∈ t, Text.isWhitespace c = false ∧ c ≠ '#') : Plain t := by
  apply Plain.lacking
  · intro inside
    exact absurd (solid _ inside).1 (by decide)
  · intro inside
    exact absurd (solid _ inside).1 (by decide)
  · intro inside
    exact (solid _ inside).2 rfl

theorem validateSshUser_solid {user : Text} (ok : validateSshUser user = .ok ()) :
    ∀ c ∈ user, Text.isWhitespace c = false := by
  unfold validateSshUser at ok
  split at ok
  · cases ok
  · rename_i none
    simp only [List.any_eq_true, not_exists, not_and, Bool.or_eq_true, not_or] at none
    intro c inside
    simpa using (none c inside).1

namespace HostEntry.Valid

variable {e : HostEntry}

theorem host_solid (valid : e.Valid) :
    e.host ≠ [] ∧ ∀ c ∈ e.host, Text.isWhitespace c = false ∧ c ≠ '#' := by
  have host := valid.host
  simp only [validHostAlias, Bool.and_eq_true, Bool.not_eq_true', List.isEmpty_eq_false_iff,
    List.all_eq_true] at host
  exact ⟨host.1.1, fun c inside => allowedChar_solid (host.2 c inside)⟩

theorem device_solid (valid : e.Valid) :
    e.deviceId ≠ [] ∧ ∀ c ∈ e.deviceId, Text.isWhitespace c = false ∧ c ≠ '#' := by
  obtain ⟨nonempty, -, each⟩ := DeviceId.isValid_ofList.mp valid.deviceId
  exact ⟨nonempty, fun c inside => allowedChar_solid (each c inside)⟩

theorem user_solid (valid : e.Valid) : ∀ c ∈ e.user, Text.isWhitespace c = false :=
  validateSshUser_solid valid.user

/-- No line of the block has a line break or a marker. -/
theorem plain (valid : e.Valid) (windows : Bool) : ∀ l ∈ e.lines windows, Plain l := by
  have device := solid_plain valid.device_solid.2
  have user : Plain e.user := by
    refine ⟨?_, ?_, ?_⟩
    · intro inside
      exact absurd (valid.user_solid _ inside) (by decide)
    · intro inside
      exact absurd (valid.user_solid _ inside) (by decide)
    · intro marker is
      apply Text.not_infix_of_lacks is.shape.2.1
      intro inside
      exact absurd (valid.user_solid _ inside) (by decide)
  have arguments : Plain ("\tProxyCommand ".toList ++ (shellDoubleQuote windows e.executable ++
      (" --proxy --setup-code-file ".toList ++ (shellDoubleQuote windows e.setupCodePath ++
        (" --target ".toList ++ (shellDoubleQuote windows e.deviceId ++ [])))))) := by
    apply Plain.after (by decide) (by decide) (by decide)
    apply Plain.quoted windows valid.executable
    apply Plain.after (by decide) (by decide) (by decide)
    apply Plain.quoted windows valid.setupCodePath
    apply Plain.after (by decide) (by decide) (by decide)
    exact Plain.quoted windows device (Plain.lacking (by decide) (by decide) (by decide))
  have fixed (t : Text) (flat : '\n' ∉ t) (noReturn : '\r' ∉ t) (lacks : '#' ∉ t) : Plain t :=
    Plain.lacking flat noReturn lacks
  intro l member
  simp only [HostEntry.lines, List.mem_cons, List.not_mem_nil, or_false] at member
  rcases member with rfl | rfl | rfl | rfl | rfl | rfl | rfl | rfl
  · exact Plain.after (by decide) (by decide) (by decide) (solid_plain valid.host_solid.2)
  · exact fixed _ (by decide) (by decide) (by decide)
  · exact Plain.after (by decide) (by decide) (by decide) device
  · exact Plain.after (by decide) (by decide) (by decide) user
  · exact fixed _ (by decide) (by decide) (by decide)
  · exact fixed _ (by decide) (by decide) (by decide)
  · exact fixed _ (by decide) (by decide) (by decide)
  · simpa using arguments

end HostEntry.Valid

/-! ## Reading a block back -/

/-- A block in the file: its lines and as many empty ones. -/
def spaced (windows : Bool) (b : HostEntry × Nat) : List Text :=
  b.1.lines windows ++ List.replicate b.2 []

/-- Every line of a block is solid. -/
theorem lines_not_blank (windows : Bool) (e : HostEntry) :
    ∀ l ∈ e.lines windows, Text.blank l = false := by
  intro l member
  simp only [HostEntry.lines, List.mem_cons, List.not_mem_nil, or_false] at member
  rcases member with rfl | rfl | rfl | rfl | rfl | rfl | rfl | rfl <;>
    simp [Text.blank, Text.isWhitespace]

theorem lines_ne_nil (windows : Bool) (e : HostEntry) : e.lines windows ≠ [] := by
  simp [HostEntry.lines]

theorem spaced_ne_nil (windows : Bool) (b : HostEntry × Nat) : spaced windows b ≠ [] := by
  simp [spaced, lines_ne_nil]

theorem spaced_plain (windows : Bool) {b : HostEntry × Nat} (valid : b.1.Valid) :
    ∀ l ∈ spaced windows b, Plain l := by
  intro l member
  cases List.mem_append.mp member with
  | inl own => exact valid.plain windows l own
  | inr empty =>
      rw [List.eq_of_mem_replicate empty]
      exact Plain.lacking (by simp) (by simp) (by simp)

theorem lines_spaced (windows : Bool) {b : HostEntry × Nat} (valid : b.1.Valid) :
    ∃ n, (Text.unpieces (spaced windows b)).lines = b.1.lines windows ++ List.replicate n [] := by
  have plain := spaced_plain windows valid
  rw [Text.lines_unpieces (spaced_ne_nil windows b) (fun l member => (plain l member).flat)
    (fun l member => (plain l member).noReturn)]
  obtain ⟨e, k⟩ := b
  cases k with
  | zero =>
      refine ⟨0, ?_⟩
      simp [spaced, HostEntry.lines]
  | succ k =>
      refine ⟨k, ?_⟩
      rw [spaced, List.replicate_succ', ← List.append_assoc]
      simp

theorem sameHost_spaced {windows : Bool} {b : HostEntry × Nat} (valid : b.1.Valid) (host : Text) :
    sameHost host (Text.unpieces (spaced windows b)) = (b.1.host == host) := by
  obtain ⟨n, lines⟩ := lines_spaced windows valid
  have trimmed : b.1.host.trim = b.1.host :=
    Text.trim_of_solid fun c inside => (valid.host_solid.2 c inside).1
  rw [sameHost, lines]
  simp [HostEntry.lines, trimmed]

/-- The line, trimmed, is the key alias of the device. -/
def readsAlias (deviceId line : Text) : Bool := line.trim == "HostKeyAlias ".toList ++ deviceId

/-- An indented line whose first character is not `H` is no key alias. -/
theorem readsAlias_indented (deviceId l : Text) {c : Char} (solid : Text.isWhitespace c = false)
    (unlike : c ≠ 'H') : readsAlias deviceId ('\t' :: c :: l) = false := by
  obtain ⟨rest, trimmed⟩ := Text.trimEnd_head l solid
  have start : Text.trimStart ('\t' :: c :: l) = c :: l := by
    simp [Text.trimStart, solid, show Text.isWhitespace '\t' = true by decide]
  rw [readsAlias, Text.trim, start, trimmed]
  simp [unlike]

/-- A block has one line that is a key alias, that of its own device. -/
theorem readsAlias_lines {e : HostEntry} (valid : e.Valid) (windows : Bool) (deviceId : Text) :
    (e.lines windows).any (readsAlias deviceId) = (e.deviceId == deviceId) := by
  have host : readsAlias deviceId ("Host ".toList ++ e.host) = false := by
    obtain ⟨nonempty, solid⟩ := valid.host_solid
    rw [readsAlias, Text.trim_solid]
    · simp
    · intro c first
      cases first
      decide
    · intro c last
      rw [List.getLast?_append_of_ne_nil _ nonempty] at last
      exact (solid c (List.mem_of_mem_getLast? last)).1
  have name : readsAlias deviceId "\tHostName rust-ssh-proxy".toList = false := by
    have trimmed : Text.trim "\tHostName rust-ssh-proxy".toList =
        "HostName rust-ssh-proxy".toList := by decide
    rw [readsAlias, trimmed]
    simp
  have key : readsAlias deviceId ("\tHostKeyAlias ".toList ++ e.deviceId) =
      (e.deviceId == deviceId) := by
    obtain ⟨nonempty, solid⟩ := valid.device_solid
    have start : Text.trimStart ("\tHostKeyAlias ".toList ++ e.deviceId) =
        "HostKeyAlias ".toList ++ e.deviceId := by
      simp [Text.trimStart, Text.isWhitespace]
    have stop : Text.trimEnd ("HostKeyAlias ".toList ++ e.deviceId) =
        "HostKeyAlias ".toList ++ e.deviceId := by
      obtain ⟨front, last, split⟩ := List.eq_nil_or_concat' e.deviceId |>.resolve_left nonempty
      rw [split, ← List.append_assoc]
      exact Text.trimEnd_snoc (solid last (by simp [split])).1
    rw [readsAlias, Text.trim, start, stop]
    simp
  have user : readsAlias deviceId ("\tUser ".toList ++ e.user) = false :=
    readsAlias_indented deviceId ("ser ".toList ++ e.user) (c := 'U') (by decide) (by decide)
  have master : readsAlias deviceId "\tControlMaster no".toList = false :=
    readsAlias_indented deviceId "ontrolMaster no".toList (c := 'C') (by decide) (by decide)
  have persist : readsAlias deviceId "\tControlPersist no".toList = false :=
    readsAlias_indented deviceId "ontrolPersist no".toList (c := 'C') (by decide) (by decide)
  have path : readsAlias deviceId "\tControlPath none".toList = false :=
    readsAlias_indented deviceId "ontrolPath none".toList (c := 'C') (by decide) (by decide)
  have command (rest : Text) : readsAlias deviceId ("\tProxyCommand ".toList ++ rest) = false :=
    readsAlias_indented deviceId ("roxyCommand ".toList ++ rest) (c := 'P') (by decide) (by decide)
  simp only [HostEntry.lines, List.any_cons, List.any_nil, List.append_assoc, host, name, key, user,
    master, persist, path, command, Bool.false_or, Bool.or_false]

theorem sameDevice_spaced {windows : Bool} {b : HostEntry × Nat} (valid : b.1.Valid)
    (deviceId : Text) :
    sameDevice deviceId (Text.unpieces (spaced windows b)) = (b.1.deviceId == deviceId) := by
  obtain ⟨n, lines⟩ := lines_spaced windows valid
  have empty : (List.replicate n ([] : Text)).any (readsAlias deviceId) = false := by
    rw [List.any_eq_false]
    intro l member
    rw [List.eq_of_mem_replicate member]
    simp [readsAlias, Text.trim, Text.trimStart, Text.trimEnd]
  show (Text.lines _).any (readsAlias deviceId) = _
  rw [lines, List.any_append, empty, Bool.or_false, readsAlias_lines valid]

/-! ## Splitting -/

theorem splitFrom_more {current : List Text} (begun : current ≠ []) {rest : List Text}
    (inner : ∀ l ∈ rest, ¬ "Host ".toList <+: l) (more : List Text) :
    splitFrom current (rest ++ more) = splitFrom (current ++ rest) more := by
  induction rest generalizing current with
  | nil => simp
  | cons l rest ih =>
      have inside : ¬ "Host ".toList <+: l := inner l List.mem_cons_self
      have not_here : ¬ ("Host ".toList.isPrefixOf l = true ∧ current ≠ []) :=
        fun starts => inside (List.isPrefixOf_iff_prefix.mp starts.1)
      rw [List.cons_append, splitFrom, if_neg not_here, if_neg fun white => begun white.2,
        ih (by simp) fun k member => inner k (List.mem_cons_of_mem _ member)]
      simp

/-- Only the first line of a block stands at the margin. -/
theorem spaced_shape (windows : Bool) (b : HostEntry × Nat) :
    ∃ rest, spaced windows b = ("Host ".toList ++ b.1.host) :: rest ∧
      ∀ l ∈ rest, ¬ "Host ".toList <+: l := by
  refine ⟨_, rfl, ?_⟩
  intro l member
  cases List.mem_append.mp member with
  | inl own =>
      simp only [List.mem_cons, List.not_mem_nil, or_false] at own
      rcases own with rfl | rfl | rfl | rfl | rfl | rfl | rfl <;> simp
  | inr empty =>
      rw [List.eq_of_mem_replicate empty]
      simp

/-- The blocks are cut apart where they were put together. -/
theorem splitFrom_spaced (windows : Bool) (blocks : List (HostEntry × Nat)) (current : List Text) :
    splitFrom current (blocks.flatMap (spaced windows)) =
      (if current = [] then [] else [Text.unpieces current]) ++
        blocks.map fun b => Text.unpieces (spaced windows b) := by
  induction blocks generalizing current with
  | nil => simp [splitFrom]
  | cons b rest ih =>
      obtain ⟨inner, shape, indented⟩ := spaced_shape windows b
      have solid : Text.blank ("Host ".toList ++ b.1.host) = false := by
        simp [Text.blank, Text.isWhitespace]
      have here : "Host ".toList <+: "Host ".toList ++ b.1.host := List.prefix_append ..
      have one : splitFrom ["Host ".toList ++ b.1.host] (inner ++ rest.flatMap (spaced windows)) =
          (Text.unpieces (spaced windows b)) :: rest.map fun b => Text.unpieces (spaced windows b) := by
        rw [splitFrom_more (by simp) indented, ih, List.singleton_append, ← shape]
        simp [spaced_ne_nil]
      rw [List.flatMap_cons, shape, List.cons_append, splitFrom]
      have not_white : ¬ (Text.blank ("Host ".toList ++ b.1.host) = true ∧ current = []) := by
        rw [solid]
        exact fun white => Bool.false_ne_true white.1
      by_cases begun : current = []
      · rw [if_neg fun starts => starts.2 begun, if_neg not_white, begun]
        simpa [shape] using one
      · rw [if_pos ⟨List.isPrefixOf_iff_prefix.mpr here, begun⟩, solid, if_neg Bool.false_ne_true]
        simpa [begun, shape] using one

end RustSsh.Desktop
