-- Finding blocks. Walking a program, counting its blocks and looking a block
-- up by its id are told by the places of the program: a walk goes through all
-- places in order, and the block that is found stands at the first place with
-- the id. An edit changes the program at that place alone. Whatever block a run
-- shows can be found.
import BlockMaze.Proofs.LoopCounts
import Mathlib.Data.Set.Card
import Mathlib.Data.List.Lex

namespace BlockMaze

namespace Program

/-! ## Places -/

/-- The block at a place, with the list that directly holds it. A place is the number of the block
in that list, behind the numbers of the blocks around it, the outermost first. -/
def standing? : List Block → List Nat → Option (Block × List Block)
  | _, [] => none
  | bs, [i] => bs[i]?.map fun b => (b, bs)
  | bs, i :: j :: rest => bs[i]?.bind fun b => standing? b.children (j :: rest)

/-- The places of a program in the order of its walk. -/
def places (program : Program) : List (List Nat) := (spots program).map Spot.place

theorem standing?_cons {bs : List Block} {i : Nat} {place : List Nat} (h : place ≠ []) :
    standing? bs (i :: place) = bs[i]?.bind fun b => standing? b.children place := by
  cases place with
  | nil => exact absurd rfl h
  | cons j rest => rfl

end Program

/-- The list that directly holds the block of a spot: that of the innermost block around it, or a
given one. -/
def Spot.home (s : Spot) (outermost : List Block) : List Block :=
  s.around.getLast?.elim outermost Block.children

theorem Spot.home_inside (s : Spot) (i : Nat) (b : Block) (outermost : List Block) :
    (s.inside i b).home outermost = s.home b.children := by
  unfold home inside
  rw [List.getLast?_cons]
  cases s.around.getLast? <;> rfl

namespace Program

section

variable {times : Block → Nat}

/-- A spot tells what stands at its place. -/
theorem standing?_of_mem_inOrder (front : List Block) {bs : List Block} {s : Spot}
    (h : s ∈ inOrder times front.length bs) :
    standing? (front ++ bs) s.place = some (s.block, s.home (front ++ bs)) := by
  induction bs using tree_induction generalizing front s with
  | nil => simp [inOrder] at h
  | cons b bs inside behind =>
    rcases mem_inOrder_cons h with rfl | ⟨t, ht, rfl⟩ | h
    · simp [standing?, Spot.home]
    · obtain ⟨j, rest, -, hplace⟩ := place_of_mem_inOrder ht
      have hin := inside [] ht
      have hne : t.place ≠ [] := by rw [hplace]; simp
      rw [Spot.home_inside]
      change standing? (front ++ b :: bs) (front.length :: t.place) = some (t.block, _)
      rw [standing?_cons hne]
      simpa using hin
    · have hbehind := behind (front ++ [b]) (s := s) (by simpa using h)
      simpa using hbehind

end

theorem standing?_of_mem_spots {program : Program} {s : Spot} (h : s ∈ spots program) :
    standing? program s.place = some (s.block, s.home program) :=
  standing?_of_mem_inOrder [] h

/-- The spots of a list are its blocks, and the spots inside them. -/
theorem mem_inOrder_of_getElem? {bs : List Block} {i j : Nat} {b : Block} (h : bs[j]? = some b) :
    ⟨[i + j], [], b⟩ ∈ inOrder (fun _ => 1) i bs ∧
      ∀ s ∈ spots b.children, s.inside (i + j) b ∈ inOrder (fun _ => 1) i bs := by
  induction bs generalizing i j with
  | nil => simp at h
  | cons a bs ih =>
    rw [spots_cons]
    cases j with
    | zero =>
      obtain rfl : a = b := by simpa using h
      refine ⟨List.mem_cons_self, ?_⟩
      intro s hs
      exact List.mem_cons_of_mem _ (List.mem_append_left _ (List.mem_map_of_mem hs))
    | succ j =>
      obtain ⟨hb, hin⟩ := ih (i := i + 1) (j := j) (by simpa using h)
      rw [Nat.add_right_comm, Nat.add_assoc] at hb
      refine ⟨List.mem_cons_of_mem _ (List.mem_append_right _ hb), ?_⟩
      intro s hs
      have hmem := hin s hs
      rw [Nat.add_right_comm, Nat.add_assoc] at hmem
      exact List.mem_cons_of_mem _ (List.mem_append_right _ hmem)

/-- Wherever a block stands there is a spot. -/
theorem exists_spot_of_standing? {bs home : List Block} {place : List Nat} {b : Block}
    (h : standing? bs place = some (b, home)) :
    ∃ s ∈ spots bs, s.place = place ∧ s.block = b := by
  fun_induction standing? bs place with
  | case1 => simp at h
  | case2 bs i =>
    obtain ⟨c, hc, he⟩ := Option.map_eq_some_iff.1 h
    have hmem := (mem_inOrder_of_getElem? (i := 0) hc).1
    rw [Nat.zero_add] at hmem
    exact ⟨_, hmem, rfl, congrArg Prod.fst he⟩
  | case3 bs i j rest ih =>
    obtain ⟨c, hc, hin⟩ := Option.bind_eq_some_iff.1 h
    obtain ⟨s, hs, hplace, hblock⟩ := ih c hin
    have hmem := (mem_inOrder_of_getElem? (i := 0) hc).2 s hs
    rw [Nat.zero_add] at hmem
    exact ⟨_, hmem, by rw [← hplace]; rfl, hblock⟩

theorem mem_places {program : Program} {place : List Nat} :
    place ∈ places program ↔ (standing? program place).isSome = true := by
  unfold places
  rw [List.mem_map, Option.isSome_iff_exists]
  constructor
  · rintro ⟨s, hs, rfl⟩
    exact ⟨_, standing?_of_mem_spots hs⟩
  · rintro ⟨⟨b, home⟩, h⟩
    obtain ⟨s, hs, hplace, -⟩ := exists_spot_of_standing? h
    exact ⟨s, hs, hplace⟩

/-- The places ascend: a block comes before what is inside it, and that before what stands behind
the block. -/
theorem ascending_places (i : Nat) (bs : List Block) :
    ((inOrder (fun _ => 1) i bs).map Spot.place).Pairwise (· < ·) := by
  induction bs using tree_induction generalizing i with
  | nil => simp [inOrder]
  | cons b bs inside behind =>
    -- what stands behind the block has larger numbers
    have hbehind : ∀ front : List Nat, ∀ s ∈ inOrder (fun _ => 1) (i + 1) bs,
        i :: front < s.place := by
      intro front s hs
      obtain ⟨j, rest, hj, hplace⟩ := place_of_mem_inOrder hs
      rw [hplace, List.cons_lt_cons_iff]
      exact Or.inl hj
    rw [List.pairwise_map, spots_cons, List.pairwise_cons, List.pairwise_append]
    refine ⟨?_, ?_, List.pairwise_map.1 (behind (i + 1)), ?_⟩
    · intro s hs
      rcases List.mem_append.1 hs with hs | hs
      · obtain ⟨t, ht, rfl⟩ := List.mem_map.1 hs
        obtain ⟨j, rest, -, hplace⟩ := place_of_mem_inOrder ht
        change [i] < i :: t.place
        rw [hplace, List.cons_lt_cons_iff]
        exact Or.inr ⟨rfl, List.nil_lt_cons j rest⟩
      · exact hbehind [] s hs
    · rw [List.pairwise_map]
      refine (List.pairwise_map.1 (inside 0)).imp ?_
      intro s t h
      exact List.cons_lt_cons_iff.2 (Or.inr ⟨rfl, h⟩)
    · intro s hs t ht
      obtain ⟨s, -, rfl⟩ := List.mem_map.1 hs
      exact hbehind s.place t ht

/-- A walk meets the blocks at the places of the program in order. -/
theorem walk_eq_places (program : Program) :
    (walk program).map some =
      (places program).map fun place => (standing? program place).map Prod.fst := by
  unfold places
  rw [← blocks_of_spots 0 program, List.map_map, List.map_map]
  apply List.map_congr_left
  intro s hs
  change some s.block = (standing? program s.place).map Prod.fst
  rw [standing?_of_mem_spots hs]
  rfl

theorem count_eq_places (program : Program) :
    count program = {place | (standing? program place).isSome = true}.ncard := by
  have hset : {place | (standing? program place).isSome = true} = (places program).toFinset := by
    ext place
    rw [Set.mem_ofPred_eq, Finset.mem_coe, List.mem_toFinset, mem_places]
  have hnodup : (places program).Nodup := (ascending_places 0 program).imp ne_of_lt
  have hlength := congrArg List.length (walk_eq_places program)
  rw [List.length_map, List.length_map] at hlength
  rw [hset, Set.ncard_coe_finset, List.toFinset_card_of_nodup hnodup]
  exact hlength

/-! ## Finding -/

section

variable {id : String}

/-- A block is found if it is the first one, and else inside it or behind it. -/
theorem findIn_cons (siblings : List Block) (b : Block) (bs : List Block) :
    findIn id siblings (b :: bs) =
      if b.id = id then some (b, siblings)
      else (findIn id b.children b.children).or (findIn id siblings bs) := by
  obtain ⟨i, kind, count, body⟩ := b
  cases body with
  | none => rw [findIn]; simp [Block.children, findIn]
  | some body =>
    rw [findIn]
    simp only [Block.children, Option.getD_some]
    cases findIn id body body <;> rfl

/-- Finding goes through the spots in order. -/
theorem findIn_eq_spots (siblings : List Block) (i : Nat) (bs : List Block) :
    findIn id siblings bs =
      ((inOrder (fun _ => 1) i bs).find? fun s => s.block.id = id).map fun s =>
        (s.block, s.home siblings) := by
  induction bs using tree_induction generalizing siblings i with
  | nil => simp [findIn, inOrder]
  | cons b bs inside behind =>
    rw [findIn_cons, spots_cons, List.find?_cons]
    by_cases hb : b.id = id
    · simp [hb, Spot.home]
    · have hinside :
          ((spots b.children).map (Spot.inside i b)).find? (fun s => s.block.id = id) =
            ((spots b.children).find? fun s => s.block.id = id).map (Spot.inside i b) :=
        List.find?_map
      rw [if_neg hb, inside b.children 0, behind siblings (i + 1)]
      simp only [hb, decide_false, List.find?_append, hinside, Option.map_or, Option.map_map,
        Function.comp_def, Spot.home_inside]
      rfl

theorem find?_eq_spots (program : Program) (id : String) :
    find? program id =
      ((spots program).find? fun s => s.block.id = id).map fun s => (s.block, s.home program) :=
  findIn_eq_spots program 0 program

end

section

variable {program : Program} {id : String}

/-- The block that is found is the first of the walk. -/
theorem find?_fst : (find? program id).map Prod.fst = (walk program).find? fun b => b.id = id := by
  rw [find?_eq_spots, ← blocks_of_spots 0 program, List.find?_map, Option.map_map]
  rfl

theorem find?_eq_none : find? program id = none ↔ ∀ b ∈ walk program, b.id ≠ id := by
  rw [← Option.map_eq_none_iff (f := Prod.fst), find?_fst, List.find?_eq_none]
  simp

/-- A block of a list of siblings stands at the first place with an id. -/
def StandsFirst (program : Program) (id : String) (b : Block) (siblings : List Block) : Prop :=
  ∃ place, standing? program place = some (b, siblings) ∧ b.id = id ∧
    ∀ earlier < place, ∀ c others, standing? program earlier = some (c, others) → c.id ≠ id

theorem standsFirst_of_find? {b : Block} {siblings : List Block}
    (h : find? program id = some (b, siblings)) : StandsFirst program id b siblings := by
  rw [find?_eq_spots] at h
  obtain ⟨s, hfind, hs⟩ := Option.map_eq_some_iff.1 h
  simp only [Prod.mk.injEq] at hs
  obtain ⟨rfl, rfl⟩ := hs
  obtain ⟨hid, before, behind, hsplit, hbefore⟩ := List.find?_eq_some_iff_append.1 hfind
  have hmem : s ∈ spots program := by simp [hsplit]
  refine ⟨s.place, standing?_of_mem_spots hmem, by simpa using hid, ?_⟩
  intro earlier hlt c others hc
  obtain ⟨t, ht, rfl, rfl⟩ := exists_spot_of_standing? hc
  -- the spot is none of those that stand at the place or behind it
  have hpairs := List.pairwise_map.1 (ascending_places 0 program)
  change (spots program).Pairwise _ at hpairs
  rw [hsplit, List.pairwise_append, List.pairwise_cons] at hpairs
  rw [hsplit, List.mem_append, List.mem_cons] at ht
  rcases ht with ht | rfl | ht
  · simpa using hbefore t ht
  · exact absurd hlt (lt_irrefl _)
  · exact absurd hlt (lt_asymm (hpairs.2.1.1 t ht))

theorem find?_eq_some {b : Block} {siblings : List Block} :
    find? program id = some (b, siblings) ↔ StandsFirst program id b siblings := by
  refine ⟨standsFirst_of_find?, ?_⟩
  rintro ⟨place, hplace, hid, hfirst⟩
  cases hfind : find? program id with
  | none =>
    obtain ⟨s, hs, -, rfl⟩ := exists_spot_of_standing? hplace
    have hmem : s.block ∈ walk program := by
      rw [← blocks_of_spots 0 program]
      exact List.mem_map_of_mem hs
    exact absurd hid (find?_eq_none.1 hfind _ hmem)
  | some found =>
    obtain ⟨place', hplace', hid', hfirst'⟩ := standsFirst_of_find? (b := found.1) hfind
    rcases lt_trichotomy place place' with hlt | rfl | hlt
    · exact absurd hid (hfirst' place hlt b siblings hplace)
    · exact hplace'.symm.trans hplace
    · exact absurd hid' (hfirst place' hlt found.1 found.2 hplace')

end

/-! ## Editing -/

/-- A program is edited at its first block with an id: in the list of siblings that directly holds
the block, new blocks stand for it. Nothing else is changed but the bodies around. -/
inductive EditedAt (id : String) (b : Block) (new : List Block) :
    (siblings program edited : List Block) → Prop
  | here (before after : List Block) (first : ∀ c ∈ walk before, c.id ≠ id) (found : b.id = id) :
      EditedAt id b new (before ++ b :: after) (before ++ b :: after) (before ++ (new ++ after))
  | inside (before after : List Block) {around : Block} {siblings body : List Block}
      (first : ∀ c ∈ walk before, c.id ≠ id) (other : around.id ≠ id)
      (h : EditedAt id b new siblings around.children body) :
      EditedAt id b new siblings (before ++ around :: after)
        (before ++ { around with body := some body } :: after)

/-- The ids of a program in the order of its walk. -/
def ids (program : Program) : List String := (walk program).map Block.id

section

variable {id : String} {b : Block} {new siblings program edited : List Block}

theorem ids_append (as bs : List Block) : ids (as ++ bs) = ids as ++ ids bs := by
  rw [ids, walk_append, List.map_append]
  rfl

theorem ids_cons (b : Block) (bs : List Block) :
    ids (b :: bs) = b.id :: (ids b.children ++ ids bs) := by
  rw [ids, walk_cons, List.map_cons, List.map_append]
  rfl

theorem not_mem_ids (h : ∀ c ∈ walk program, c.id ≠ id) : id ∉ ids program := by
  intro hmem
  obtain ⟨c, hc, he⟩ := List.mem_map.1 hmem
  exact h c hc he

/-- Where a block is found, an edit puts the new blocks. -/
theorem editedAt_of_findIn (change : Block → List Block) (front : List Block) {bs : List Block}
    (first : ∀ c ∈ walk front, c.id ≠ id)
    (h : findIn id (front ++ bs) bs = some (b, siblings)) :
    ∃ edited, replace? id change bs = some edited ∧
      EditedAt id b (change b) siblings (front ++ bs) (front ++ edited) := by
  induction bs using tree_induction generalizing front siblings with
  | nil => simp [findIn] at h
  | cons c bs inside behind =>
    rw [findIn_cons] at h
    rw [replace?_cons]
    by_cases hc : c.id = id
    · rw [if_pos hc] at h ⊢
      cases h
      exact ⟨change b ++ bs, rfl, .here front bs first hc⟩
    · rw [if_neg hc] at h ⊢
      cases hin : findIn id c.children c.children with
      | some found =>
        obtain rfl : found = (b, siblings) := by simpa [hin] using h
        obtain ⟨body, hbody, hedited⟩ := inside [] (by simp [walk]) hin
        rw [hbody]
        exact ⟨_, rfl, .inside front bs first hc hedited⟩
      | none =>
        -- neither the block nor anything inside it has the id, so it joins the front
        have hnone : ∀ d ∈ walk c.children, d.id ≠ id := find?_eq_none.1 hin
        have hfront : ∀ d ∈ walk (front ++ [c]), d.id ≠ id := by
          rw [walk_append, List.forall_mem_append, forall_mem_walk_cons]
          exact ⟨first, hc, hnone, by simp [walk]⟩
        obtain ⟨edited, hreplace, hedited⟩ := behind (front ++ [c]) hfront (by simpa [hin] using h)
        rw [replace?_eq_none hnone, hreplace]
        exact ⟨c :: edited, rfl, by simpa using hedited⟩

/-- In the order of the walk, the ids of the new blocks stand for those of the block. -/
theorem ids_of_editedAt (h : EditedAt id b new siblings program edited) :
    ∃ front behind, id ∉ front ∧ ids program = front ++ ids [b] ++ behind ∧
      ids edited = front ++ ids new ++ behind := by
  induction h with
  | here before after first found =>
    refine ⟨ids before, ids after, not_mem_ids first, ?_, ?_⟩
    · rw [← ids_append, ← ids_append, List.append_assoc, List.singleton_append]
    · rw [ids_append, ids_append, List.append_assoc]
  | @inside before after around siblings body first other h ih =>
    obtain ⟨front, behind, hfront, hprogram, hedited⟩ := ih
    refine ⟨ids before ++ around.id :: front, behind ++ ids after, ?_, ?_, ?_⟩
    · simp [not_mem_ids first, hfront, Ne.symm other]
    · simp [ids_append, ids_cons, hprogram]
    · simp [ids_append, ids_cons, Block.children, hedited]

/-- An edit changes the block that is found, in the list that is found with it, and nothing else:
in the order of the walk, the ids before and behind it are as they were. Where no block is found,
there is no edit. -/
theorem an_edit_changes_the_block_that_is_found (program : Program) (id : String)
    (change : Block → List Block) :
    (find? program id = none → replace? id change program = none) ∧
      ∀ b siblings, find? program id = some (b, siblings) →
        ∃ edited, replace? id change program = some edited ∧
          EditedAt id b (change b) siblings program edited ∧
          ∃ front behind, id ∉ front ∧ ids program = front ++ ids [b] ++ behind ∧
            ids edited = front ++ ids (change b) ++ behind := by
  refine ⟨fun h => replace?_eq_none (find?_eq_none.1 h), ?_⟩
  intro b siblings h
  obtain ⟨edited, hreplace, hedited⟩ := editedAt_of_findIn change [] (by simp [walk]) h
  exact ⟨edited, hreplace, hedited, ids_of_editedAt hedited⟩

theorem count_of_edit (change : Block → List Block) (h : find? program id = some (b, siblings)) :
    ∃ edited, replace? id change program = some edited ∧
      count edited + count [b] = count program + count (change b) := by
  obtain ⟨edited, hreplace, -, front, behind, -, hprogram, hedited⟩ :=
    (an_edit_changes_the_block_that_is_found program id change).2 b siblings h
  have hlength : ∀ bs, count bs = (ids bs).length := by
    intro bs
    rw [ids, List.length_map]
    rfl
  refine ⟨edited, hreplace, ?_⟩
  simp only [hlength, hprogram, hedited, List.length_append]
  omega

/-- Wherever the block stands, to take it out takes all blocks inside it out as well, and to put a
block before it or at the end of its body adds that block with all inside it. -/
theorem edits_count_the_blocks_they_move (h : find? program id = some (b, siblings)) :
    (∃ edited, remove? program id = some edited ∧ count edited + count [b] = count program) ∧
      ∀ new,
        (∃ edited, insertBefore? program id new = some edited ∧
          count edited = count program + count [new]) ∧
        ∃ edited, appendInside? program id new = some edited ∧
          count edited = count program + count [new] := by
  refine ⟨?_, fun new => ⟨?_, ?_⟩⟩
  · obtain ⟨edited, hedited, hcount⟩ := count_of_edit (fun _ => []) h
    have hnone : count [] = 0 := by simp [count, walk]
    exact ⟨edited, hedited, by omega⟩
  · obtain ⟨edited, hedited, hcount⟩ := count_of_edit (fun b => [new, b]) h
    have hboth : count [new, b] = count [new] + count [b] := count_append [new] [b]
    exact ⟨edited, hedited, by omega⟩
  · obtain ⟨edited, hedited, hcount⟩ :=
      count_of_edit (fun b => [{ b with body := some (b.children ++ [new]) }]) h
    have hbody : count (b.children ++ [new]) = count b.children + count [new] :=
      count_append b.children [new]
    have hold := count_singleton b
    have hnew : count [{ b with body := some (b.children ++ [new]) }] =
        count (b.children ++ [new]) + 1 := count_singleton _
    exact ⟨edited, hedited, by omega⟩

end

end Program

/-! ## Blocks of a run -/

namespace State

/-- A run visits blocks of its program only. -/
theorem mem_walk_of_next? {level : Level} {program : Program} {start : Pose} {n : Nat} {b : Block}
    (h : ((initial program start).after level n).next? = some b) : b ∈ Program.walk program := by
  obtain ⟨-, f, below, hs⟩ := next?_eq_some.1 h
  have hpath := isPath_settle (isPath_after level program start n) hs
  exact mem_walk_of_frame (hpath.mem_framesIn f List.mem_cons_self)
    (List.mem_of_getElem? (next_of_settle hs))

theorem isSome_find?_of_active {level : Level} {program : Program} {start : Pose} {n : Nat}
    {id : String} (h : ((initial program start).result level n).active = some id) :
    (Program.find? program id).isSome = true := by
  rw [result_active] at h
  obtain ⟨b, hb, hid⟩ := Option.map_eq_some_iff.1 h
  rw [Option.isSome_iff_ne_none]
  intro hnone
  exact Program.find?_eq_none.1 hnone b (mem_walk_of_next? hb) hid

end State

/-- Walking, counting and finding tell of the same tree, whatever ids repeat in it. The walk meets
the blocks of all places, each place once and in ascending order, so that parents come before their
children and siblings in order; the count is the number of places; a block is found unless no block
of the walk has the id, and it is the first one of the walk with the id, given with the list that
directly holds it; and what a run of the program shows as visited is found. -/
theorem Program.walking_counting_and_finding_agree (program : Program) :
    ((places program).Pairwise (· < ·) ∧
        (∀ place, place ∈ places program ↔ (standing? program place).isSome = true) ∧
        (walk program).map some =
          (places program).map fun place => (standing? program place).map Prod.fst) ∧
      count program = {place | (standing? program place).isSome = true}.ncard ∧
      (∀ id, (find? program id = none ↔ ∀ b ∈ walk program, b.id ≠ id) ∧
        (find? program id).map Prod.fst = ((walk program).find? fun b => b.id = id) ∧
        ∀ b siblings,
          find? program id = some (b, siblings) ↔ StandsFirst program id b siblings) ∧
      ∀ level start n id, ((State.initial program start).result level n).active = some id →
        (find? program id).isSome = true := by
  refine ⟨⟨ascending_places 0 program, ?_, walk_eq_places program⟩, count_eq_places program, ?_, ?_⟩
  · intro place
    exact mem_places
  · intro id
    exact ⟨find?_eq_none, find?_fst, fun b siblings => find?_eq_some⟩
  · intro level start n id h
    exact State.isSome_find?_of_active h

end BlockMaze
