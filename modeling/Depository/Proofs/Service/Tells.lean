import Depository.Proofs.Service.Succeeds

/-!
# Parts of operations that fail for known reasons

An operation looks something up and checks it before it changes anything.  Such a part leaves the
tables as they are, and where every question to them is answered it fails for the reason that it
checks and no other: the storage is not there, the right is missing, the condition does not hold.

* `Operation.Tells` — an operation changes nothing and fails only as is allowed;
* `Tables.HasRoles` — every membership tells its role, so a right is there or it is not
  (`Service.mayManage_ok`);
* `Service.get_tells`, `Service.requireManage_tells`, `Service.requireView_tells` — the parts, and
  `Service.get_unread`, for a row that is not read.
-/

namespace Depository

/-- Every membership tells its role by a text. -/
def Tables.HasRoles (t : Tables) : Prop :=
  ∀ row ∈ t.memberships, ∃ role, row.get? "role" = .ofText role

/-- A user has no role, or one that is told by a text. -/
theorem Tables.HasRoles.role_cases {t : Tables} (h : t.HasRoles) (workspaceId userId : Cell) :
    t.role workspaceId userId = none ∨ ∃ text, t.role workspaceId userId = .ofText text := by
  rw [Tables.role]
  cases hfound : t.memberships.find? fun m =>
    m.has "workspaceId" workspaceId && m.has "userId" userId with
  | none => exact .inl rfl
  | some row =>
    obtain ⟨text, htext⟩ := h row (List.mem_of_find?_eq_some hfound)
    refine .inr ⟨text, ?_⟩
    simp [htext, Cell.ofText]

namespace Operation

variable {α β : Type} {env : Environment} {t : Tables} {n : Nat} {o : Operation α}
  {f : α → Operation β} {F : Failure → Prop} {P : α → Prop} {Q : β → World → Prop}

/-- The operation fails only as `F` allows; else it changes no table and takes no id, and `P` holds
of its value. -/
def Tells (env : Environment) (t : Tables) (n : Nat) (F : Failure → Prop) (o : Operation α)
    (P : α → Prop) : Prop :=
  o.Ends env t n (fun e _ => F e) fun a w => w.At t n ∧ P a

theorem Tells.bind (h : o.Tells env t n F P)
    (hf : ∀ a, P a → (f a).Ends env t n (fun e _ => F e) Q) :
    (o >>= f).Ends env t n (fun e _ => F e) Q := by
  refine Ends.bind h ?_
  rintro a w ⟨hw, ha⟩
  rw [hw.tables, hw.ids]
  exact hf a ha

theorem tells_pure {a : α} (h : P a) : (pure a : Operation α).Tells env t n F P :=
  ends_pure fun _ hw => ⟨hw, h⟩

theorem tells_fail {e : Failure} (h : F e) : (fail e : Operation α).Tells env t n F P :=
  ends_fail fun _ _ => h

theorem tells_lift {outcome : Except Failure α} (h : ∀ e, outcome = .error e → F e) :
    (lift outcome).Tells env t n F fun _ => True := by
  intro w hw
  cases outcome with
  | ok a => exact ⟨hw, trivial⟩
  | error e => exact h e rfl

theorem tells_require {condition : Bool} {e : Failure} (h : condition = false → F e) :
    (require condition e).Tells env t n F fun _ => condition = true := by
  cases condition with
  | true => exact tells_pure rfl
  | false => exact tells_fail (h rfl)

end Operation

namespace Service

open Operation

variable {env : Environment} {t : Tables} {n : Nat} {F : Failure → Prop}

/-- The right to manage can be told from every role. -/
theorem mayManage_ok (h : t.HasRoles) (actor : Actor) (workspaceId userId : Cell) :
    ∃ allowed, mayManage actor (t.role workspaceId userId) = .ok allowed := by
  rw [mayManage]
  split
  · exact ⟨true, rfl⟩
  · rw [managesAs]
    obtain hnone | ⟨text, htext⟩ := h.role_cases workspaceId userId
    · rw [hnone]
      exact ⟨false, rfl⟩
    · rw [htext]
      split
      · exact ⟨managesByName text, rfl⟩
      · exact ⟨false, rfl⟩

theorem requireManage_tells (ha : env.Answers) (hr : t.HasRoles) (workspaceId : Cell)
    (actor : Actor) {reason : PermissionReason}
    (hF : mayManage actor (t.role workspaceId actor.id) = .ok false → F (.permission reason)) :
    (requireManage workspaceId actor reason).Tells env t n F fun _ =>
      mayManage actor (t.role workspaceId actor.id) = .ok true := by
  obtain ⟨allowed, hallowed⟩ := mayManage_ok hr actor workspaceId actor.id
  refine Gives.bind (canManage_gives ha hallowed) ?_
  refine Ends.mono (tells_require fun h => hF (hallowed.trans (congrArg Except.ok h)))
    (fun _ _ he => he) ?_
  rintro _ w ⟨hw, h⟩
  exact ⟨hw, hallowed.trans (congrArg Except.ok h)⟩

theorem requireView_tells (ha : env.Answers) (workspaceId : Cell) (actor : Actor)
    {reason : PermissionReason}
    (hF : mayView actor (t.role workspaceId actor.id) = false → F (.permission reason)) :
    (requireView workspaceId actor reason).Tells env t n F fun _ =>
      mayView actor (t.role workspaceId actor.id) = true :=
  Gives.bind (Gives.bind (role_gives ha _ _) (gives_pure _)) (tells_require hF)

/-- A storage that is looked up is there, or its caller is told that it is not. -/
theorem get_tells (ha : env.Answers) (h : t.IsNormal) (id : String)
    (hF : t.find? (.ofText id) = none → F (.notFound id)) :
    (get (.ofText id)).Tells env t n F fun s => ∃ row r, t.find? (.ofText id) = some row ∧
      row.Holds r ∧ r.id = id ∧ s = r.toStorage := by
  cases hfound : t.find? (.ofText id) with
  | none =>
    have hnone : (find? (.ofText id)).Gives env t n none := by
      refine Gives.bind (findStorage_gives ha (.ofText id)) ?_
      rw [hfound]
      exact gives_pure none
    exact Gives.bind hnone (tells_fail (hF hfound))
  | some row =>
    obtain ⟨r, hr, hid⟩ := h.of_find? hfound
    have hsame : r.id = id := by simpa [Cell.ofText] using hid.symm
    refine Ends.mono (get_gives ha hfound hr) (fun _ _ hfalse => hfalse.elim) ?_
    rintro s w ⟨hw, rfl⟩
    exact ⟨hw, row, r, rfl, hr, hsame, rfl⟩

/-- Who looks up a row that is not read is told why. -/
theorem get_unread (ha : env.Answers) {id : Cell} {row : Row} {e : Failure}
    (hf : t.find? id = some row) (he : Storage.ofRow row = .error e) :
    (get id).Ends env t n (fun e' _ => e' = e) fun _ _ => False := by
  have hload : loadOption (t.find? id) = .error e := by rw [hf, loadOption_of_error he]
  refine Ends.bind (S := fun _ _ => False) (Gives.bind (findStorage_gives ha id) ?_)
    fun _ _ hfalse => hfalse.elim
  rw [hload]
  exact ends_fail fun _ _ => rfl

end Service

end Depository
