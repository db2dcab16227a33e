import Clientwright.Service.Basic

/-!
# Services whose references lead somewhere

The shapes of a service are a graph: a structure refers to the shapes of its
members, a list and a map to what they hold, all of it by name. `Leads` is one
step along these references and `Holds` the part of it that stays outside
structures, the part that a value is unfolded along.

`Closed` is what the generator relies on and never checks. Every step ends at a
shape, every shape knows the name it is kept under, and every operation fits the
shapes. Nothing is said about circles: a closed service may lead anywhere, back
to where it started included.
-/

namespace Clientwright

namespace Service

/-- A list or a map refers to what it holds. -/
inductive Holds (s : Service) : String → String → Prop where
  | item {k : String} {l : ListShape} (h : s.shape? k = some (.list l)) :
      s.Holds k l.member.shape
  | key {k : String} {m : MapShape} (h : s.shape? k = some (.map m)) :
      s.Holds k m.key.shape
  | value {k : String} {m : MapShape} (h : s.shape? k = some (.map m)) :
      s.Holds k m.value.shape

/-- A shape refers to another one: by a member, or by what it holds. -/
inductive Leads (s : Service) : String → String → Prop where
  | member {k : String} {t : StructureShape} (h : s.shape? k = some (.structure t))
      {m : Member} (hm : m ∈ t.members) : s.Leads k m.shape
  | held {k n : String} (h : s.Holds k n) : s.Leads k n

/-- What the list or map of a name refers to. -/
def held (s : Service) (k : String) : List String :=
  match s.shape? k with
  | some (.list l) => [l.member.shape]
  | some (.map m) => [m.key.shape, m.value.shape]
  | some (.structure _) | some (.scalar _) | none => []

theorem holds_iff {s : Service} {k n : String} : s.Holds k n ↔ n ∈ s.held k := by
  constructor
  · rintro (h | h | h) <;> simp [held, h]
  · intro hn
    unfold held at hn
    split at hn
    next l h =>
      obtain rfl := List.mem_singleton.mp hn
      exact .item h
    next m h =>
      rcases List.mem_cons.mp hn with rfl | hn
      · exact .key h
      · obtain rfl := List.mem_singleton.mp hn
        exact .value h
    all_goals cases hn

theorem holds_iff_of_list {s : Service} {k n : String} {l : ListShape}
    (h : s.shape? k = some (.list l)) : s.Holds k n ↔ n = l.member.shape := by
  rw [holds_iff, held, h, List.mem_singleton]

theorem holds_iff_of_map {s : Service} {k n : String} {m : MapShape}
    (h : s.shape? k = some (.map m)) :
    s.Holds k n ↔ n = m.key.shape ∨ n = m.value.shape := by
  rw [holds_iff, held, h, List.mem_cons, List.mem_singleton]

end Service

/-- What an operation refers to is among the shapes, and each placeholder is the
wire name of a member of the input that stands in the URI. -/
structure Operation.Fits (shapes : Table Shape) (o : Operation) : Prop where
  input : ∀ n, o.input = some n → ∃ t, shapes.get? n = some (.structure t)
  output : ∀ n, o.output = some n → ∃ t, shapes.get? n = some (.structure t)
  errors : ∀ n ∈ o.errors, ∃ shape, shapes.get? n = some shape
  placeholders : ∀ p ∈ o.http.placeholders, ∃ n t, o.input = some n ∧
    shapes.get? n = some (.structure t) ∧
      ∃ m ∈ t.members, m.location = .uri ∧ m.wireName = p.name

/-- Every reference of the service leads somewhere. -/
structure Service.Closed (s : Service) : Prop where
  named : ∀ {k shape}, s.shape? k = some shape → shape.name = k
  resolved : ∀ {k n}, s.Leads k n → ∃ shape, s.shape? n = some shape
  operations : ∀ {k o}, s.operation? k = some o → o.Fits s.shapes

namespace Service

theorem structure?_eq_some_iff {s : Service} {n : String} {t : StructureShape} :
    s.structure? n = some t ↔ s.shape? n = some (.structure t) := by
  unfold structure?
  split
  next t' h => rw [h]; simp
  next h => exact ⟨nofun, fun e => absurd e (h t)⟩

end Service

end Clientwright
