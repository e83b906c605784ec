/-!
# Calls

A call on an object changes it and gives a result, or fails. Nothing takes back what was changed
before a failure, so what a failed call leaves behind depends on what it did until then.
-/

namespace QuestionSearch

/-- A call on an object. -/
abbrev Call (σ ε α : Type) := ExceptT ε (StateM σ) α

namespace Call

variable {σ ε α β : Type}

/-- What a call gives, and the object afterwards. -/
def on (call : Call σ ε α) (object : σ) : Except ε α × σ := call.run.run object

variable (object : σ)

@[simp]
theorem on_pure (value : α) : (pure value : Call σ ε α).on object = (.ok value, object) := rfl

@[simp]
theorem on_throw (fault : ε) : (throw fault : Call σ ε α).on object = (.error fault, object) := rfl

@[simp]
theorem on_ofExcept (result : Except ε α) :
    (MonadExcept.ofExcept result : Call σ ε α).on object = (result, object) := by
  cases result <;> rfl

@[simp]
theorem on_get : (get : Call σ ε σ).on object = (.ok object, object) := rfl

@[simp]
theorem on_set (next : σ) : (set next : Call σ ε PUnit).on object = (.ok ⟨⟩, next) := rfl

@[simp]
theorem on_modify (change : σ → σ) :
    (modify change : Call σ ε PUnit).on object = (.ok ⟨⟩, change object) := rfl

/-- A call that follows another one is made on what that one leaves, unless that one fails. -/
@[simp]
theorem on_bind (call : Call σ ε α) (next : α → Call σ ε β) :
    (call >>= next).on object =
      match call.on object with
      | (.error fault, after) => (.error fault, after)
      | (.ok value, after) => (next value).on after := by
  change (ExceptT.bindCont next (call.on object).1).run (call.on object).2 = _
  obtain ⟨result, after⟩ := call.on object
  cases result <;> rfl

@[simp]
theorem on_map (image : α → β) (call : Call σ ε α) :
    (image <$> call).on object = ((call.on object).1.map image, (call.on object).2) := by
  rw [map_eq_pure_bind, on_bind]
  obtain ⟨result, after⟩ := call.on object
  cases result <;> rfl

end Call

end QuestionSearch
