import AmbientBundle.Declarations
import AmbientBundle.Import.Reference

/-!
# Shaking

The modules a bundle needs are those that its entry reaches through references.
`reachable` finds them with a work list: the next module to visit is at the
front, and the declared references of a visited module are put before the rest.
A module may wait in several places of the list; it is recorded the first time
it comes up and skipped later.

Each step either records a declared module that was not recorded before or
shortens the list, which is why the walk ends on every graph.
-/

namespace AmbientBundle
namespace Shake

/-- The modules a module refers to, in the order they are read. -/
def referencesOf (d : Declarations) (policy : ShakePolicy) (m : ModuleId) : List ModuleId :=
  match d.find? m with
  | none => []
  | some body => Import.references body policy

/-- The modules of a list that were not recorded yet. -/
def unseen (seen ms : List ModuleId) : List ModuleId := ms.filter fun m => !seen.contains m

/-- Recording one more module takes just that module out of what is left to record. -/
theorem unseen_append (seen ms : List ModuleId) (m : ModuleId) :
    unseen (seen ++ [m]) ms = (unseen seen ms).filter (· ≠ m) := by
  simp only [unseen, List.filter_filter]
  refine List.filter_congr fun n _ => ?_
  simp [Bool.and_comm]

/-- Recording a module that waits leaves fewer to record. -/
theorem length_unseen_lt {seen ms : List ModuleId} {m : ModuleId} (hm : m ∈ ms) (hs : m ∉ seen) :
    (unseen (seen ++ [m]) ms).length < (unseen seen ms).length := by
  have hwaits : m ∈ unseen seen ms := by simp [unseen, hm, hs]
  rw [unseen_append]
  exact List.length_filter_lt_length_iff_exists.2 ⟨m, hwaits, by simp⟩

/-- Visit the modules of a work list, given those recorded so far. -/
def visit (d : Declarations) (policy : ShakePolicy) (seen : List ModuleId) :
    List ModuleId → List ModuleId
  | [] => seen
  | m :: waiting =>
      if _hs : m ∈ seen then visit d policy seen waiting
      else
        match _hb : d.find? m with
        | none => visit d policy seen waiting
        | some body =>
            let seen' := seen ++ [m]
            let next := (Import.references body policy).filter fun r =>
              !seen'.contains r && d.contains r
            visit d policy seen' (next ++ waiting)
termination_by waiting => ((unseen seen d.ids).length, waiting.length)
decreasing_by
  · exact Prod.Lex.right _ (by simp)
  · exact Prod.Lex.right _ (by simp)
  · exact Prod.Lex.left _ _ (length_unseen_lt (Declarations.mem_ids_of_find? _hb) _hs)

/-- The modules reachable from an entry, in the order they are first visited.  With shaking
off these are all modules; otherwise an entry that is not declared has no answer. -/
def reachable (d : Declarations) (entry : ModuleId) (policy : ShakePolicy) :
    Option (List ModuleId) :=
  match policy with
  | .off => some d.ids
  | _ => if d.contains entry then some (visit d policy [] [entry]) else none

end Shake
end AmbientBundle
