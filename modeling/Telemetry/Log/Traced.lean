import Telemetry.Log.Notice

/-! Results that come with the notices given on the way. The value never depends on the notices. -/
namespace Telemetry

structure Traced (α : Type) where
  value : α
  notices : List Notice

namespace Traced

variable {α β : Type}

/-- Gives one notice. -/
def note (notice : Notice) : Traced Unit :=
  ⟨(), [notice]⟩

instance : Monad Traced where
  pure a := ⟨a, []⟩
  bind x f :=
    let next := f x.value
    ⟨next.value, x.notices ++ next.notices⟩

@[simp] theorem value_pure (a : α) : (pure a : Traced α).value = a := rfl

@[simp] theorem value_bind (x : Traced α) (f : α → Traced β) :
    (x >>= f).value = (f x.value).value := rfl

@[simp] theorem value_map (f : α → β) (x : Traced α) : (f <$> x).value = f x.value := rfl

@[simp] theorem notices_pure (a : α) : (pure a : Traced α).notices = [] := rfl

@[simp] theorem notices_bind (x : Traced α) (f : α → Traced β) :
    (x >>= f).notices = x.notices ++ (f x.value).notices := rfl

@[simp] theorem value_note (notice : Notice) : (note notice).value = () := rfl

@[simp] theorem notices_note (notice : Notice) : (note notice).notices = [notice] := rfl

end Traced

end Telemetry
