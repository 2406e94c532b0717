/-!
Grouping by key, where a script needs one block for all that belongs to one name.
-/
namespace Netscribe

/-- Values grouped by key, in the order in which the keys first appear. -/
def groupByKey {α : Type} (key : α → String) (xs : List α) : List (String × List α) :=
  ((xs.map key).eraseDups).map fun k => (k, xs.filter fun x => key x == k)

/-- Each element with its number, counted from `start`. -/
def numbered {α : Type} (start : Nat) (xs : List α) : List (Nat × α) :=
  xs.mapIdx fun i x => (start + i, x)

end Netscribe
