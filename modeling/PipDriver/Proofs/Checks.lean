import PipDriver.Pip.Basic
import PipDriver.Proofs.Steps

/-!
The checks ahead of a request: whatever they find fault with is reported as a program that is missing, an
option that is not valid or a log that cannot be written.
-/

namespace PipDriver

def Refuses {α : Type} (answer : Except Failure α) : Prop :=
  ∀ failure, answer = .error failure → failure.isRefusal = true

theorem refuses_ok {α : Type} (value : α) : Refuses (.ok value) := by
  intro failure same
  cases same

theorem refuses_error {α : Type} {failure : Failure} (refusal : failure.isRefusal = true) :
    Refuses (.error failure : Except Failure α) := by
  rintro _ ⟨⟩
  exact refusal

namespace Tokens

theorem refuses_concat {parts : List Tokens} (each : ∀ part ∈ parts, Refuses part) : Refuses (concat parts) := by
  induction parts with
  | nil => exact refuses_ok _
  | cons first rest ih =>
      have others := ih fun part member => each part (List.mem_cons_of_mem _ member)
      have head := each first List.mem_cons_self
      cases first with
      | error failure => exact head
      | ok tokens =>
          unfold concat
          cases tail : concat rest with
          | error failure =>
              rw [tail] at others
              exact refuses_error (others failure rfl)
          | ok _ => exact refuses_ok _

theorem refuses_editables (list : Option ItemList) : Refuses (editables list) := by
  refine refuses_concat ?_
  intro part member
  obtain ⟨entry, -, rfl⟩ := List.mem_map.mp member
  unfold editable
  split
  · exact refuses_ok _
  · exact refuses_error rfl

theorem refuses_log (world : World) (path : Option Path) : Refuses (log world path) := by
  unfold log
  split
  · exact refuses_ok _
  · split
    · exact refuses_ok _
    · exact refuses_error rfl

theorem refuses_timeout (value : Option Text) : Refuses (timeout value) := by
  unfold timeout
  split
  · exact refuses_ok _
  · split
    · exact refuses_ok _
    · exact refuses_error rfl

theorem refuses_address (name : Text) (option : AddressOption) (value : Option Text) :
    Refuses (address name option value) := by
  unfold address
  split
  · exact refuses_ok _
  · split
    · exact refuses_ok _
    · exact refuses_error rfl

theorem refuses_indexConflict (off : Bool) (index extra : Option Text) :
    Refuses (indexConflict off index extra) := by
  unfold indexConflict
  split
  · exact refuses_error rfl
  · exact refuses_ok _

theorem refuses_mirrors (list : Option ItemList) : Refuses (mirrors list) := by
  unfold mirrors
  simp only []
  split
  · exact refuses_ok _
  · refine refuses_concat ?_
    intro part member
    rcases List.mem_cons.mp member with rfl | listed
    · exact refuses_ok _
    · obtain ⟨entry, -, rfl⟩ := List.mem_map.mp listed
      unfold mirror
      split
      · exact refuses_ok _
      · exact refuses_error rfl

end Tokens

open Tokens

theorem Plan.refuses_ofParts {leading trailing : List Tokens} (source : Option Source)
    (first : ∀ part ∈ leading, Refuses part) (second : ∀ part ∈ trailing, Refuses part) :
    Refuses (ofParts leading trailing source) := by
  unfold ofParts
  have leads := refuses_concat first
  have trails := refuses_concat second
  split
  · rename_i failure failed
    exact refuses_error (leads failure failed)
  · split
    · rename_i failure failed
      exact refuses_error (trails failure failed)
    · exact refuses_ok _

theorem Plan.source_of_ofParts {leading trailing : List Tokens} {source : Option Source} {plan : Plan}
    (made : ofParts leading trailing source = .ok plan) : plan.source = source := by
  unfold ofParts at made
  split at made
  · cases made
  · split at made
    · cases made
    · cases made
      rfl

theorem InstallRequest.source_of_plan {world : World} {request : InstallRequest} {plan : Plan}
    (made : request.plan world = .ok plan) : plan.source = request.requirements := by
  unfold InstallRequest.plan at made
  split at made
  · exact Plan.source_of_ofParts made
  · cases made

theorem UninstallRequest.source_of_plan {world : World} {request : UninstallRequest} {plan : Plan}
    (made : request.plan world = .ok plan) : plan.source = request.requirements := by
  unfold UninstallRequest.plan at made
  split at made
  · exact Plan.source_of_ofParts made
  · cases made

theorem InstallRequest.refuses_plan (world : World) (request : InstallRequest) : Refuses (request.plan world) := by
  unfold plan
  split
  · refine Plan.refuses_ofParts _ ?_ ?_
    · simp only [leadingParts, List.forall_mem_cons]
      exact ⟨refuses_ok _, refuses_ok _, refuses_editables _, by simp⟩
    · simp only [trailingParts, List.forall_mem_cons]
      exact ⟨refuses_log _ _, refuses_ok _, refuses_timeout _, refuses_address _ _ _,
        refuses_indexConflict _ _ _, refuses_address _ _ _, refuses_address _ _ _, refuses_ok _,
        refuses_mirrors _, refuses_ok _, refuses_ok _, refuses_ok _, refuses_ok _, refuses_ok _, refuses_ok _,
        refuses_ok _, refuses_ok _, refuses_ok _, refuses_ok _, refuses_ok _, refuses_ok _, refuses_ok _, by simp⟩
  · exact refuses_error rfl

theorem UninstallRequest.refuses_plan (world : World) (request : UninstallRequest) :
    Refuses (request.plan world) := by
  unfold plan
  split
  · refine Plan.refuses_ofParts _ ?_ ?_
    · simp only [leadingParts, List.forall_mem_cons]
      exact ⟨refuses_ok _, refuses_ok _, by simp⟩
    · simp only [trailingParts, List.forall_mem_cons]
      exact ⟨refuses_log _ _, refuses_ok _, refuses_timeout _, by simp⟩
  · exact refuses_error rfl

theorem Locate.refuses_pip (world : World) (layout : Layout) (chosen : Option Path) :
    Refuses (Locate.pip world layout chosen) := by
  unfold pip pipIn
  split
  · unfold onSearchPath
    simp only []
    split
    · exact refuses_ok _
    · exact refuses_error rfl
  · split
    · simp only []
      split
      · exact refuses_ok _
      · exact refuses_error rfl
    · exact refuses_ok _

theorem Pip.refuses_activation (world : World) (layout : Layout) (request : InstallRequest) :
    Refuses (Pip.installActivation world layout request) := by
  unfold installActivation Locate.activation
  split
  · cases layout with
    | windows => exact refuses_ok _
    | posix =>
        simp only []
        unfold Locate.activationScript
        split
        · exact refuses_error rfl
        · simp only []
          split
          · exact refuses_error rfl
          · split
            · exact refuses_ok _
            · exact refuses_error rfl
  · exact refuses_ok _

end PipDriver
