import SparseFields.Proofs.Reduction.Failures
import SparseFields.Proofs.Selection.Legible

/-!
# The nodes of a selection

A selection and a descriptor are walked together in two ways.  The schema alone gives the nodes: a
level of the selection with the descriptor that its fields belong to, reached through the target of
an association wherever a part of it is picked.  The records give the visits: what a reduction
comes to from what it is given, through the elements of collections and the records it finds.
Every visit is at a node, and a visit never lies deeper than the selection is.
-/

namespace SparseFields

/-- The entity that a field of a descriptor links to, if it names an association. -/
def Descriptor.targetOf (d : Descriptor) (naming : NamingRules) (field : String) : Option String :=
  match d.resolve naming field with
  | .many link => some link.target
  | .one link => some link.target
  | _ => none

theorem Descriptor.targetOf_of_many {d : Descriptor} {naming : NamingRules} {field : String}
    {link : HasMany} (h : d.resolve naming field = .many link) :
    d.targetOf naming field = some link.target := by
  rw [targetOf, h]

theorem Descriptor.targetOf_of_one {d : Descriptor} {naming : NamingRules} {field : String}
    {link : BelongsTo} (h : d.resolve naming field = .one link) :
    d.targetOf naming field = some link.target := by
  rw [targetOf, h]

/-! ## Nodes -/

/-- A level of a selection with the descriptor of its fields, and the entity through which it is
reached, if it lies below an association. -/
structure Node where
  via : Option String
  descriptor : Descriptor
  selection : Selection

/-- The top level of a selection. -/
def Node.root (d : Descriptor) (s : Selection) : Node := ⟨none, d, s⟩

/-- The nodes at and below a node: a part that is picked of an association belongs to the
descriptor that the source has for the target. -/
inductive Node.Reaches (naming : NamingRules) (source : Source) : Node → Node → Prop
  | here (node : Node) : Reaches naming source node node
  | part {via d s field sub entity target node}
      (picked : (field, Selection.Pick.part sub) ∈ s.toList)
      (linked : d.targetOf naming field = some entity)
      (described : source.describe entity = .ok target)
      (below : Reaches naming source ⟨some entity, target, sub⟩ node) :
      Reaches naming source ⟨via, d, s⟩ node

/-- What holds of a node and of the nodes below its parts holds of all nodes that it reaches. -/
theorem Node.forall_reaches {naming : NamingRules} {source : Source} {P : Node → Prop}
    {via : Option String} {d : Descriptor} {s : Selection} (hnode : P ⟨via, d, s⟩)
    (hparts : ∀ field sub, (field, Selection.Pick.part sub) ∈ s.toList →
      ∀ entity, d.targetOf naming field = some entity →
        ∀ target, source.describe entity = .ok target →
          ∀ node, Reaches naming source ⟨some entity, target, sub⟩ node → P node) :
    ∀ node, Reaches naming source ⟨via, d, s⟩ node → P node := by
  intro node hreaches
  cases hreaches with
  | here => exact hnode
  | part hpicked hlinked hdescribed hbelow =>
      exact hparts _ _ hpicked _ hlinked _ hdescribed node hbelow

/-- The descriptor of orders. -/
def Sample.order : Descriptor :=
  ((Descriptor.plain "Order" ["total", "status", "userId"]).withMany
    "line_items" "LineItem" "orderId").withOne "User" "userId"

/-- The sample selection has three nodes: the user at the top, her orders, and the user of each. -/
theorem Sample.forall_nodes {P : Node → Prop} (htop : P ⟨none, user, selection⟩)
    (horders : P ⟨some "Order", order, .whole "status" (.part "user" (.whole "name" .nil) .nil)⟩)
    (huser : P ⟨some "User", user, .whole "name" .nil⟩) :
    ∀ node, Node.Reaches .conventional shop.source (.root user selection) node → P node := by
  refine Node.forall_reaches htop ?_
  intro field sub hpicked entity hlinked target hdescribed
  obtain ⟨rfl, rfl⟩ : field = "orders" ∧
      sub = .whole "status" (.part "user" (.whole "name" .nil) .nil) := by
    simpa [selection, Selection.toList] using hpicked
  obtain rfl : "Order" = entity := Option.some.inj hlinked
  obtain rfl : order = target := Except.ok.inj hdescribed
  refine Node.forall_reaches horders ?_
  intro field sub hpicked entity hlinked target hdescribed
  obtain ⟨rfl, rfl⟩ : field = "user" ∧ sub = .whole "name" .nil := by
    simpa [Selection.toList] using hpicked
  obtain rfl : "User" = entity := Option.some.inj hlinked
  obtain rfl : user = target := Except.ok.inj hdescribed
  refine Node.forall_reaches huser ?_
  intro field sub hpicked
  simp [Selection.toList] at hpicked

/-! ## Visits -/

/-- What a reduction is asked to reduce at some point: content of a descriptor to a selection at a
level. -/
structure Site where
  descriptor : Descriptor
  content : Content
  level : Nat
  selection : Selection

namespace Reducer

variable (r : Reducer)

/-- The sites that a reduction comes to from a site, with the positions in collections on the way,
the outermost first.  An element of a collection is come to when all elements before it have been
reduced, and a field when all fields before it have been written. -/
inductive Visits : Site → List Nat → Site → Prop
  | here (site : Site) : Visits site [] site
  | element {d before x after level s places site}
      (shallow : level ≤ r.options.maxDepth)
      (reduced : ∀ y ∈ before, ∃ value, (r.reduceInstance d y level s).outcome = .ok value)
      (rest : Visits ⟨d, .one x, level, s⟩ places site) :
      Visits ⟨d, .many (before ++ x :: after), level, s⟩ (before.length :: places) site
  | records {d x level s field sub link rows target places site}
      (shallow : level ≤ r.options.maxDepth)
      (picked : r.ComesTo d x level s (field, .part sub))
      (names : d.resolve r.naming field = .many link)
      (found : r.source.findMany link.target (manyFilter d x link) = .ok rows)
      (described : r.source.describe link.target = .ok target)
      (rest : Visits ⟨target, .many rows, level + 1, sub⟩ places site) :
      Visits ⟨d, .one x, level, s⟩ places site
  | record {d x level s field sub link row target places site}
      (shallow : level ≤ r.options.maxDepth)
      (picked : r.ComesTo d x level s (field, .part sub))
      (names : d.resolve r.naming field = .one link)
      (key : (x.get? link.foreignKey).getD .null ≠ .null)
      (described : r.source.describe link.target = .ok target)
      (found : r.source.findOne link.target
        (.single target.idField ((x.get? link.foreignKey).getD .null)) = .ok (some row))
      (labelled : row.entity = target.name)
      (rest : Visits ⟨target, .one row, level + 1, sub⟩ places site) :
      Visits ⟨d, .one x, level, s⟩ places site

variable {r}

/-- Every visit is at a node. -/
theorem Visits.reaches {site site' : Site} {places : List Nat} (h : r.Visits site places site')
    (via : Option String) :
    ∃ via', Node.Reaches r.naming r.source ⟨via, site.descriptor, site.selection⟩
      ⟨via', site'.descriptor, site'.selection⟩ := by
  induction h generalizing via with
  | here site => exact ⟨via, .here _⟩
  | element _ _ _ ih => exact ih via
  | @records _ _ _ _ _ _ link _ _ _ _ _ picked names _ described _ ih =>
      obtain ⟨via', hbelow⟩ := ih (some link.target)
      exact ⟨via', .part picked.mem (Descriptor.targetOf_of_many names) described hbelow⟩
  | @record _ _ _ _ _ _ link _ _ _ _ _ picked names _ described _ _ _ ih =>
      obtain ⟨via', hbelow⟩ := ih (some link.target)
      exact ⟨via', .part picked.mem (Descriptor.targetOf_of_one names) described hbelow⟩

theorem Visits.noEmptyPart {site site' : Site} {places : List Nat}
    (h : r.Visits site places site')
    (hs : site.selection ≠ .nil ∧ site.selection.NoEmptyPart) :
    site'.selection ≠ .nil ∧ site'.selection.NoEmptyPart := by
  induction h with
  | here _ => exact hs
  | element _ _ _ ih => exact ih hs
  | records _ picked _ _ _ _ ih =>
      exact ih (Selection.noEmptyPart_iff.mp hs.2 _ picked.mem _ rfl)
  | record _ picked _ _ _ _ _ _ ih =>
      exact ih (Selection.noEmptyPart_iff.mp hs.2 _ picked.mem _ rfl)

/-- Going down a level, a visit leaves a level of the selection behind. -/
theorem Visits.level_add_depth_le {site site' : Site} {places : List Nat}
    (h : r.Visits site places site') :
    site'.level + site'.selection.depth ≤ site.level + site.selection.depth := by
  induction h with
  | here _ => exact Nat.le_refl _
  | element _ _ _ ih => exact ih
  | records _ picked _ _ _ _ ih | record _ picked _ _ _ _ _ _ ih =>
      have hless := Selection.depth_lt_of_part picked.mem
      simp only at ih ⊢
      omega

/-- Below the top level of a selection without empty parts, the level of a visit is one of the
selection. -/
theorem Visits.level_le_depth {d : Descriptor} {content : Content} {s : Selection} {site : Site}
    {places : List Nat} (h : r.Visits ⟨d, content, 1, s⟩ places site)
    (hs : s ≠ .nil ∧ s.NoEmptyPart) : site.level ≤ s.depth := by
  have hleft : 0 < site.selection.depth := Selection.depth_pos (h.noEmptyPart hs).1
  have hlevels : site.level + site.selection.depth ≤ 1 + s.depth := h.level_add_depth_le
  omega

end Reducer
end SparseFields
