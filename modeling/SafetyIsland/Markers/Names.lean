import Mathlib.Data.List.DropRight
import Mathlib.Data.List.Nodup
import Mathlib.Data.String.Basic

/-! The identifiers of `gen_markers.py`: a contract element's endpoint, folded
into the part of a marker's name that tells it from the others of its kind. -/
namespace SafetyIsland.Markers

def strip (c : Char) (s : List Char) : List Char := (s.dropWhile (· == c)).rdropWhile (· == c)

def cIdent (s : String) : String :=
  String.ofList
    ((strip '_' (s.toList.map fun c => if c.isAlphanum then c else '_')).map Char.toUpper)

/-- `split_endpoint`: the node and the name behind the first slash inside; none
where there is no such slash. -/
def splitEndpoint (ep : String) : Option (String × String) :=
  let inner := strip '/' ep.toList
  match inner.dropWhile (· != '/') with
  | _ :: name => some (String.ofList (inner.takeWhile (· != '/')), String.ofList name)
  | [] => none

/-- What every contract marker's name holds between its kind's words. -/
def ident (node name : String) : String := cIdent node ++ "_" ++ cIdent name

/-- The identifier of an endpoint, where it splits. -/
def endpointIdent (ep : String) : Option String :=
  (splitEndpoint ep).map fun (node, name) => ident node name

/-- An endpoint's identifier is that of its node and its name. -/
theorem endpointIdent_of_split {ep node name : String}
    (h : splitEndpoint ep = some (node, name)) : endpointIdent ep = some (ident node name) := by
  rw [endpointIdent, h]
  rfl

/-- The first two characters, in which the groups of markers differ. -/
def initials (name : String) : List Char := name.toList.take 2

/-- A word's initials are its own, whatever follows. -/
theorem initials_append {word : String} (h : 2 ≤ word.length) (rest : String) :
    initials (word ++ rest) = initials word := by
  rw [initials, String.toList_append, List.take_append_of_le_length h]
  rfl

/-- Names behind one word differ where what follows it does. -/
theorem append_injective (word : String) : Function.Injective (word ++ ·) := by
  intro s t h
  exact (String.append_right_inj word).mp h

/-- So do names between a word and a tail. -/
theorem between_injective (word tail : String) : Function.Injective (word ++ · ++ tail) := by
  intro s t h
  exact (String.append_right_inj word).mp ((String.append_left_inj tail).mp h)

/-- No ENTRY has the name of an EXIT. -/
theorem entry_ne_exit (s t : String) : s ++ "_ENTRY" ≠ t ++ "_EXIT" := by
  intro hEq
  have hLast := congrArg (fun name => name.toList.getLast?) hEq
  simp only [String.toList_append, List.getLast?_append] at hLast
  have hWords : "_ENTRY".toList.getLast? = some 'Y' ∧ "_EXIT".toList.getLast? = some 'T' := by
    decide
  rw [hWords.1, hWords.2, Option.some_or, Option.some_or] at hLast
  exact absurd (Option.some.inj hLast) (by decide)

/-- Groups whose names begin differently never share a name. -/
theorem nodup_groups {groups : List (List Char × List String)}
    (hInitials : ∀ g ∈ groups, ∀ name ∈ g.2, initials name = g.1)
    (hApart : (groups.map Prod.fst).Nodup) :
    (groups.map Prod.snd).flatten.Nodup ↔ ∀ g ∈ groups, g.2.Nodup := by
  rw [List.nodup_flatten, List.forall_mem_map]
  have hDisjoint : (groups.map Prod.snd).Pairwise List.Disjoint := by
    rw [List.Nodup, List.pairwise_map] at hApart
    rw [List.pairwise_map]
    apply hApart.imp_of_mem
    intro g g' hg hg' hNe name hName hName'
    exact hNe ((hInitials g hg name hName).symm.trans (hInitials g' hg' name hName'))
  exact and_iff_left hDisjoint

end SafetyIsland.Markers
