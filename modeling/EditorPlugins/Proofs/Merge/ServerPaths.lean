import EditorPlugins.Merge.ServerPaths
import EditorPlugins.Proofs.Merge.Effect
import EditorPlugins.Proofs.Outcome
import EditorPlugins.Proofs.Path.FilePath
import EditorPlugins.Proofs.Traced

/-! # Where the arguments of tool servers lead

Making arguments absolute changes nothing of a configuration but the relative arguments of its
servers. Each of these becomes its path joined to the root, which is the root or lies below it
unless a further slash follows the mark: what starts with a slash leads where it says by itself.
-/

namespace EditorPlugins.Merge

open Entries FilePath Text

variable {root : FilePath}

/-- Maps with the same entries in the same order, but for the value at one key. -/
def SameBut (key : String) (entries others : Mapping) : Prop :=
  List.Forall₂ (fun entry other => other.1 = entry.1 ∧ (entry.1 ≠ .text key → other.2 = entry.2))
    entries others

theorem SameBut.refl (key : String) (entries : Mapping) : SameBut key entries entries :=
  List.forall₂_same.mpr fun _ _ => ⟨rfl, fun _ => rfl⟩

/-- Setting a field that is present changes the value at its key only. -/
theorem sameBut_setField {key : String} {entries : Mapping} {old : Value} (value : Value)
    (present : Mapping.field? entries key = some old) :
    SameBut key entries (Mapping.setField entries key value) := by
  induction entries with
  | nil => cases present
  | cons entry rest ih =>
    rw [Mapping.setField, Entries.set]
    by_cases same : entry.1 = .text key
    · rw [if_pos same]
      exact .cons ⟨rfl, fun different => absurd same different⟩ (SameBut.refl key rest)
    · rw [if_neg same]
      rw [Mapping.field?, get?, if_neg same] at present
      exact .cons ⟨rfl, fun _ => rfl⟩ (ih present)

/-- What an argument of a server becomes. -/
inductive ResolvedArgument (root : FilePath) : Value → Value → Prop where
  /-- A relative argument is joined to the root. -/
  | relative {path : String}
      (lands : IsWithin root (root.child path).text ↔ LeadsWithin root path) :
      ResolvedArgument root (.text (relativeMark ++ path)) (.text (root.child path).text)
  /-- Every other argument stays. -/
  | kept {argument : Value}
      (unmarked : ∀ text, argument = .text text → startsWith relativeMark text = false) :
      ResolvedArgument root argument argument

/-- What a server becomes. -/
inductive ResolvedServer (root : FilePath) : Value → Value → Prop where
  /-- Of a server with a list of arguments, the arguments are resolved one by one. -/
  | started {entries resolved : Mapping} {arguments placed : List Value}
      (given : Mapping.field? entries "args" = some (.list arguments))
      (now : Mapping.field? resolved "args" = some (.list placed))
      (each : List.Forall₂ (ResolvedArgument root) arguments placed)
      (others : SameBut "args" entries resolved) :
      ResolvedServer root (.map entries) (.map resolved)
  /-- Every other server stays. -/
  | kept {server : Value}
      (plain : ∀ entries arguments, server = .map entries →
        Mapping.field? entries "args" ≠ some (.list arguments)) : ResolvedServer root server server

/-- What a configuration of servers becomes. -/
structure Resolved (root : FilePath) (config result : Mapping) : Prop where
  /-- The servers are resolved one by one. -/
  servers : ∀ servers, Mapping.field? config serversKey = some (.map servers) →
    ∃ resolved, Mapping.field? result serversKey = some (.map resolved) ∧
      List.Forall₂ (fun entry other => other.1 = entry.1 ∧ ResolvedServer root entry.2 other.2)
        servers resolved
  /-- The other entries of the document stay. -/
  others : SameBut serversKey config result
  /-- A document without a map of servers stays. -/
  plain : children? config serversKey = none → result = config

private theorem resolvedArgument_resolveArgument (root : FilePath) (argument : Value) :
    ResolvedArgument root argument (resolveArgument root argument) := by
  unfold resolveArgument
  split
  · next text =>
    cases marked : startsWith relativeMark text with
    | false => exact .kept fun other same => by cases same; exact marked
    | true =>
      obtain ⟨path, rest⟩ := List.isPrefixOf_iff_prefix.mp marked
      have split : text = relativeMark ++ String.ofList path := by
        rw [← String.toList_inj, String.toList_append, String.toList_ofList, rest]
      have behind : text.toList.drop 2 = path := by rw [← rest]; rfl
      rw [if_pos rfl, behind, split]
      exact .relative isWithin_child_iff
  · next noText => exact .kept fun text same => absurd same (noText text)

private theorem resolvedServer_resolveServer? (root : FilePath) (server : Value) :
    ResolvedServer root server ((resolveServer? root server).getD server) := by
  cases server with
  | map entries =>
    cases found : (Mapping.field? entries "args").bind Value.list? with
    | none =>
      rw [resolveServer?, Value.map?]
      simp only [found, Option.map_none, Option.getD_none]
      refine .kept fun others arguments same given => ?_
      cases same
      rw [given] at found
      cases found
    | some arguments =>
      obtain ⟨value, given, shape⟩ := Option.bind_eq_some_iff.mp found
      rw [resolveServer?, Value.map?]
      simp only [found, Option.map_some, Option.getD_some]
      cases value with
      | list items =>
        cases shape
        refine .started given (get?_set_self entries _ _) ?_ (sameBut_setField _ given)
        rw [List.forall₂_map_right_iff]
        exact List.forall₂_same.mpr fun argument _ => resolvedArgument_resolveArgument root argument
      | _ => cases shape
  | _ => exact .kept fun _ _ same => nomatch same

private theorem outcome_resolveEntry (root : FilePath) (entry : Scalar × Value) :
    (resolveEntry root entry).outcome =
      .ok (entry.1, (resolveServer? root entry.2).getD entry.2) := by
  unfold resolveEntry
  cases resolveServer? root entry.2 <;> rfl

/-- Every configuration can be resolved, and nothing changes but the relative arguments of servers:
they end within the root unless they lead elsewhere by themselves. -/
theorem resolveServers_resolved (config : Mapping) (root : FilePath) :
    ∃ result, (resolveServers config root).outcome = .ok result ∧ Resolved root config result := by
  unfold resolveServers
  cases found : (Mapping.field? config serversKey).bind Value.map? with
  | none =>
    refine ⟨config, rfl, fun servers present => ?_, SameBut.refl _ _, fun _ => rfl⟩
    rw [present] at found
    cases found
  | some servers =>
    have present := children?_eq_some_iff.mp found
    have ran : (servers.mapM (resolveEntry root)).outcome =
        .ok (servers.map fun entry => (entry.1, (resolveServer? root entry.2).getD entry.2)) := by
      rw [Traced.outcome_mapM]
      exact Outcome.mapM_eq_ok_map fun entry _ => outcome_resolveEntry root entry
    refine ⟨_, Traced.bind_eq_ok_iff.mpr ⟨_, ran, rfl⟩, fun others also => ?_,
      sameBut_setField _ present, fun absent => absurd (absent.symm.trans found) (by simp)⟩
    cases present.symm.trans also
    refine ⟨_, get?_set_self config _ _, ?_⟩
    rw [List.forall₂_map_right_iff]
    exact List.forall₂_same.mpr fun entry _ => ⟨rfl, resolvedServer_resolveServer? root entry.2⟩

/-- A server with an argument that has a second slash behind its mark. -/
def doubledSlash : Mapping :=
  [(.text "mcpServers", .map [(.text "brain", .map [(.text "args",
    .list [.text ".//etc/passwd"])])])]

/-- An argument with a second slash behind its mark leaves the root. -/
theorem doubledSlash_leaves :
    startsWith relativeMark ".//etc/passwd" = true ∧
      ['.', '.'] ∉ pieces '/' ".//etc/passwd".toList ∧
      (resolveServers doubledSlash (ofText "/work/project")).outcome =
        .ok [(.text "mcpServers", .map [(.text "brain", .map [(.text "args",
          .list [.text "/etc/passwd"])])])] ∧
      ¬ IsWithin (ofText "/work/project") "/etc/passwd" := by
  refine ⟨by decide, by decide, by rfl, ?_⟩
  rw [isWithin_iff]
  decide

end EditorPlugins.Merge
