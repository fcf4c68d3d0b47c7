/-!
# The order of names

Names are listed in the order of their code points.
-/

namespace ChannelSerde.Text

/-- **Names in code-point order.** -/
def sortNames (names : List String) : List String :=
  names.mergeSort fun a b => decide (a ≤ b)

theorem sortNames_perm (names : List String) : (sortNames names).Perm names :=
  List.mergeSort_perm _ _

end ChannelSerde.Text
