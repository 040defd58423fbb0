import Imprint.Store.Basic

/-!
# What a step did to the store

The difference between two stores, as the entries that are new or altered and the entries that are
gone. A location whose entry is the same in both stores is not listed.

## Main definitions

* `Imprint.Store.changes`: the difference, location by location.

-/

namespace Imprint.Store

/-- The locations at which `t` differs from `s`, with the entry of `t`; none stands for an entry
that is gone. -/
def changes (s t : Store) : List (Location × Option Entry) :=
  (t.entries.filter fun x => s.get? x.1 ≠ some x.2).map (fun x => (x.1, some x.2)) ++
    (s.entries.filter fun x => t.get? x.1 = none).map fun x => (x.1, none)

end Imprint.Store
