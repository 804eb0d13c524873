import TextCursor.Text

/-!
# Cutting a text into clusters

A cluster rule reads a text once from the left and decides before each character whether it joins
the open cluster or begins the next one. What the rule remembers is a state of the open cluster
alone, so nothing before a boundary can influence a decision behind it: the two sides of any
boundary are cut as if the other did not exist.
-/

namespace TextCursor

/-- A rule for cutting texts into clusters. `first c` is the state of a cluster that consists of
`c`, and `join s c` is the state once `c` has joined a cluster in state `s`, or `none` when `c`
begins a new cluster there. -/
structure ClusterRule where
  State : Type
  first : Char → State
  join : State → Char → Option State

namespace ClusterRule

/-- Cut the text behind an open cluster in the given state: what still belongs to the open
cluster, and the clusters after it. -/
def cutAfter (rule : ClusterRule) (state : rule.State) : Text → Text × List Text
  | [] => ([], [])
  | c :: rest =>
      match rule.join state c with
      | some joined =>
          let (more, later) := rule.cutAfter joined rest
          (c :: more, later)
      | none =>
          let (more, later) := rule.cutAfter (rule.first c) rest
          ([], (c :: more) :: later)

/-- The clusters of a text, in order. -/
def clusters (rule : ClusterRule) : Text → List Text
  | [] => []
  | c :: rest =>
      let (more, later) := rule.cutAfter (rule.first c) rest
      (c :: more) :: later

/-- What belongs to the open cluster and the clusters after it make up the text. -/
theorem cutAfter_flatten (rule : ClusterRule) (state : rule.State) (text : Text) :
    (rule.cutAfter state text).1 ++ (rule.cutAfter state text).2.flatten = text := by
  induction text generalizing state with
  | nil => rfl
  | cons c rest ih =>
      simp only [cutAfter]
      cases rule.join state c with
      | some joined => simpa using ih joined
      | none => simpa using ih (rule.first c)

/-- The clusters of a text concatenate to the text. -/
theorem flatten_clusters (rule : ClusterRule) (text : Text) :
    (rule.clusters text).flatten = text := by
  cases text with
  | nil => rfl
  | cons c rest => simpa [clusters] using rule.cutAfter_flatten (rule.first c) rest

/-- No cluster behind an open one is empty. -/
theorem ne_nil_of_mem_cutAfter (rule : ClusterRule) (state : rule.State) (text : Text) :
    ∀ cluster ∈ (rule.cutAfter state text).2, cluster ≠ [] := by
  induction text generalizing state with
  | nil => simp [cutAfter]
  | cons c rest ih =>
      simp only [cutAfter]
      cases rule.join state c with
      | some joined => simpa using ih joined
      | none => simpa using ih (rule.first c)

/-- No cluster of a text is empty. -/
theorem ne_nil_of_mem_clusters (rule : ClusterRule) (text : Text) :
    ∀ cluster ∈ rule.clusters text, cluster ≠ [] := by
  cases text with
  | nil => simp [clusters]
  | cons c rest => simpa [clusters] using rule.ne_nil_of_mem_cutAfter (rule.first c) rest

end ClusterRule

end TextCursor
