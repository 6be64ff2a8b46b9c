/-
# Desktop.Reconfigure -- configuring a device twice

`update_managed_ssh_config` writes a newline behind the end marker and keeps everything
that stood behind the old one, the old newline included.  So a second call with the same
arguments always succeeds and never leaves the file as the first one did
(`reconfigure_changes`).
-/
import RustSsh.Desktop.SshFile

namespace RustSsh.Desktop

open RustSsh.Theory

set_option autoImplicit false

/-! ## The two platforms compute the same text -/

/-- The line endings of the platform. -/
def platformText (windows : Bool) (text : Text) : Text :=
  if windows then text.replace ['\n'] ['\r', '\n'] else text

theorem updatedConfig_platform (windows : Bool) (text hostBlock deviceId host : Text) :
    updatedConfig windows text hostBlock deviceId host =
      (updatedConfig false text hostBlock deviceId host).map (platformText windows) := by
  cases windows with
  | false =>
      cases updatedConfig false text hostBlock deviceId host with
      | error message => rfl
      | ok updated => rfl
  | true =>
      have same (result : Except String Text) : result.map (platformText true) =
          (result.map (platformText false)).map (platformText true) := by
        cases result <;> rfl
      exact same _

theorem normalize_platform (windows : Bool) {text : Text} (plain : '\r' ∉ text) :
    normalizeLineEndings (platformText windows text) = text := by
  cases windows with
  | false => exact normalize_of_plain plain
  | true => exact normalize_windows plain

/-- Only the normalized text matters. -/
theorem updatedConfig_normalize (windows : Bool) {text other : Text}
    (same : normalizeLineEndings text = normalizeLineEndings other) (hostBlock deviceId host : Text) :
    updatedConfig windows text hostBlock deviceId host =
      updatedConfig windows other hostBlock deviceId host := by
  simp only [updatedConfig, same]

/-! ## The second call -/

/-- An end marker anywhere behind a begin marker completes the block. -/
theorem complete_of_markers {text : Text} (before inner after : Text)
    (shape : normalizeLineEndings text =
      before ++ managedSshBegin ++ (inner ++ managedSshEnd ++ after)) : Complete text := by
  intro start first none
  have early : start ≤ before.length := by
    by_contra late
    apply (Text.find_some first).2.2 before.length (by omega)
    rw [shape, List.append_assoc, List.drop_left]
    exact List.prefix_append ..
  rw [Text.find_eq_none, shape] at none
  apply none
  -- what is behind the marker that was found ends with what is behind this one
  obtain ⟨gap, distance⟩ := Nat.le.dest early
  have place : start + managedSshBegin.length + gap = (before ++ managedSshBegin).length := by
    rw [List.length_append]
    omega
  have behind : inner ++ managedSshEnd ++ after <:+
      (before ++ managedSshBegin ++ (inner ++ managedSshEnd ++ after)).drop
        (start + managedSshBegin.length) := by
    have cut := List.take_append_drop gap
      ((before ++ managedSshBegin ++ (inner ++ managedSshEnd ++ after)).drop
        (start + managedSshBegin.length))
    rw [List.drop_drop, place, List.drop_left] at cut
    exact ⟨_, cut⟩
  exact (List.infix_append inner managedSshEnd after).trans behind.isInfix

/-- A text a call writes has both markers, so the next call can read it. -/
theorem updated_complete {text hostBlock deviceId host updated : Text}
    (done : updatedConfig false text hostBlock deviceId host = .ok updated) : Complete updated := by
  have shape := normalize_of_plain (updated_plain done)
  cases updatedConfig_cases done with
  | inl first =>
      rw [updatedConfig_unmarked first] at done
      simp only [Bool.false_eq_true, if_false, Except.ok.injEq] at done
      apply complete_of_markers (if (normalizeLineEndings text).trimEnd = [] then []
        else (normalizeLineEndings text).trimEnd ++ ['\n', '\n']) (['\n'] ++ (normalizeLineEndings hostBlock).trimEnd ++ ['\n']) ['\n']
      rw [shape, ← done]
      simp only [List.append_assoc]
  | inr marked =>
      obtain ⟨before, body, after, split, first, last⟩ := marked
      rw [updatedConfig_marked split first last] at done
      simp only [Bool.false_eq_true, if_false, Except.ok.injEq] at done
      generalize ['\n', '\n'].intercalate _ = blocks at done
      apply complete_of_markers before (['\n'] ++ blocks ++ ['\n']) ('\n' :: after)
      rw [shape, ← done]
      simp

/-- A second call computes a text, and another one. -/
theorem updated_again {windows : Bool} {text hostBlock deviceId host once : Text}
    (done : updatedConfig windows text hostBlock deviceId host = .ok once) :
    ∃ twice, updatedConfig windows once hostBlock deviceId host = .ok twice ∧ twice ≠ once := by
  rw [updatedConfig_platform] at done
  cases first : updatedConfig false text hostBlock deviceId host with
  | error message =>
      rw [first] at done
      cases done
  | ok unix =>
      rw [first] at done
      cases done
      have plain := updated_plain first
      obtain ⟨next, second⟩ := (updatedConfig_ok false unix hostBlock deviceId host).mpr
        (updated_complete first)
      have same : normalizeLineEndings (platformText windows unix) = normalizeLineEndings unix :=
        (normalize_platform windows plain).trans (normalize_of_plain plain).symm
      refine ⟨platformText windows next, ?_, ?_⟩
      · rw [updatedConfig_platform, updatedConfig_normalize false same, second]
        rfl
      · intro equal
        have read := congrArg normalizeLineEndings equal
        rw [normalize_platform windows (updated_plain second), normalize_platform windows plain] at read
        exact updated_ne second read

/-- Configuring a device once more leaves the file as it is. -/
def Idempotent (windows : Bool) (path : ConfigPath) (file : Option Bytes)
    (hostBlock deviceId host : Text) : Prop :=
  ∀ once, updateManagedSshConfig windows ⟨none, 0⟩ path file hostBlock deviceId host = (.ok (), once) →
    updateManagedSshConfig windows ⟨none, 0⟩ path once hostBlock deviceId host = (.ok (), once)

/-- What a call that succeeds has written. -/
theorem updateManagedSshConfig_written {windows : Bool} {path : ConfigPath}
    {file once : Option Bytes} {hostBlock deviceId host : Text}
    (done : updateManagedSshConfig windows ⟨none, 0⟩ path file hostBlock deviceId host =
      (.ok (), once)) :
    ∃ existing updated, existingText file = some existing ∧
      updatedConfig windows existing hostBlock deviceId host = .ok updated ∧
      once = some (Text.encode updated) := by
  rw [updateManagedSshConfig, if_neg (by simp)] at done
  cases read : readConfig ⟨none, 0⟩ path file with
  | error message => simp [read] at done
  | ok existing =>
      cases computed : updatedConfig windows existing hostBlock deviceId host with
      | error message => simp [read, computed] at done
      | ok updated =>
          simp only [read, computed, writeConfig, reduceCtorEq, false_and, and_false, if_false,
            Prod.mk.injEq, true_and] at done
          obtain rfl := done
          exact ⟨existing, updated, (readConfig_ok path (by simp) existing).mp read, computed, rfl⟩

/-- **No call is idempotent**: wherever the first one succeeds, the second one succeeds and
leaves another file. -/
theorem reconfigure_changes {windows : Bool} {path : ConfigPath} {file once : Option Bytes}
    {hostBlock deviceId host : Text}
    (done : updateManagedSshConfig windows ⟨none, 0⟩ path file hostBlock deviceId host =
      (.ok (), once)) :
    (∃ twice, updateManagedSshConfig windows ⟨none, 0⟩ path once hostBlock deviceId host =
      (.ok (), twice) ∧ twice ≠ once) ∧
      ¬ Idempotent windows path file hostBlock deviceId host := by
  have again : ∃ twice, updateManagedSshConfig windows ⟨none, 0⟩ path once hostBlock deviceId host =
      (.ok (), twice) ∧ twice ≠ once := by
    obtain ⟨existing, updated, read, computed, rfl⟩ := updateManagedSshConfig_written done
    obtain ⟨next, second, other⟩ := updated_again computed
    refine ⟨some (Text.encode next), ?_, ?_⟩
    · exact updateManagedSshConfig_ok (Text.decode_encode updated) second
    · intro same
      have texts := congrArg Text.decode (Option.some.inj same)
      rw [Text.decode_encode, Text.decode_encode] at texts
      exact other (Option.some.inj texts)
  refine ⟨again, fun idempotent => ?_⟩
  obtain ⟨twice, second, other⟩ := again
  exact other (congrArg Prod.snd (second.symm.trans (idempotent once done)))

/-- The config of `userConfig` after the device was configured. -/
def configuredOnce : Option Bytes :=
  (updateManagedSshConfig false ⟨none, 0⟩ userPath userConfig deskBlock "desk".toList
    "desk".toList).2

theorem configured_ok : updateManagedSshConfig false ⟨none, 0⟩ userPath userConfig deskBlock
    "desk".toList "desk".toList = (.ok (), configuredOnce) := by
  decide +kernel

theorem reconfigure_changes_desk :
    (∃ twice, updateManagedSshConfig false ⟨none, 0⟩ userPath configuredOnce deskBlock
      "desk".toList "desk".toList = (.ok (), twice) ∧ twice ≠ configuredOnce) ∧
      ¬ Idempotent false userPath userConfig deskBlock "desk".toList "desk".toList :=
  reconfigure_changes configured_ok

/-- The second call leaves one more empty line behind the managed block. -/
theorem reconfigure_grows :
    updateManagedSshConfig false ⟨none, 0⟩ userPath configuredOnce deskBlock "desk".toList
        "desk".toList = (.ok (), configuredOnce.map (· ++ [10])) ∧
      ¬ ∀ path file hostBlock deviceId host,
        Idempotent false path file hostBlock deviceId host := by
  have grown : updateManagedSshConfig false ⟨none, 0⟩ userPath configuredOnce deskBlock
      "desk".toList "desk".toList = (.ok (), configuredOnce.map (· ++ [10])) := by
    decide +kernel
  refine ⟨grown, fun claim => ?_⟩
  have again := claim _ _ _ _ _ _ configured_ok
  rw [grown] at again
  exact absurd again (by decide +kernel)

end RustSsh.Desktop
