/-
  IpcActors.TreePath

  The tree path between two subnets of one root, and the walk a cross-message
  takes along it (§4.3.3).

  `OnPath s t n` says that `n` lies on the path from `s` up to the common
  parent `meet s t` and down to `t`.  `nextHop t n` is where a gateway at `n`
  sends a message for `t`: to the child on the way down when `t` lies below
  `n`, to its parent otherwise.  Its one-step lemma (`nextHop_onPath`) says
  that the hop stays on the path, drops `n` from what is left of it, and
  shortens the distance `dist n t = depth n + depth t - 2 · depth (meet n t)`
  by one.  By induction over the walk, `route t (dist s t) s` visits exactly
  the path, each subnet once, and ends at `t` (`route_spec`).

  This is the abstract side of routing; `IpcActors.Gateway.Routing` shows that
  `commit_cross_message` takes these hops.
-/
import IpcActors.SubnetId

namespace IpcActors

namespace SubnetID

/-! ## The path between two subnets -/

/-- `n` lies on the tree path between `s` and `t`: the two share a root, and
    `n` is at or below their common parent and an ancestor of (or equal to)
    one of them. -/
def OnPath (s t n : SubnetID) : Prop :=
  s.root = t.root ∧ meet s t ≤ n ∧ (n ≤ s ∨ n ≤ t)

instance (s t n : SubnetID) : Decidable (OnPath s t n) :=
  inferInstanceAs (Decidable (_ ∧ _ ∧ _))

/-- The number of hops between `s` and `t` on the tree. -/
def dist (s t : SubnetID) : Nat := s.depth + t.depth - 2 * (meet s t).depth

theorem meet_self_of_le {n t : SubnetID} (h : n ≤ t) : meet n t = n :=
  meet_eq_of_le le_rfl h fun _ hv _ => hv

/-- On the way up, every subnet has the same common parent with `t`. -/
theorem meet_of_le_of_meet_le {s t n : SubnetID} (hr : s.root = t.root) (hn : n ≤ s)
    (hc : meet s t ≤ n) : meet n t = meet s t :=
  meet_eq_of_le hc (meet_le_right hr) fun _ hv hvt => le_meet (hv.trans hn) hvt

theorem onPath_of_le {n t v : SubnetID} (h : n ≤ t) : OnPath n t v ↔ n ≤ v ∧ v ≤ t := by
  rw [OnPath, meet_self_of_le h]
  refine ⟨fun ⟨_, hv, hor⟩ => ⟨hv, hor.elim (fun h' => le_antisymm h' hv ▸ h) id⟩,
    fun ⟨hv, ht⟩ => ⟨h.1, hv, .inr ht⟩⟩

theorem onPath_self (t v : SubnetID) : OnPath t t v ↔ v = t := by
  rw [onPath_of_le le_rfl]
  exact ⟨fun ⟨h₁, h₂⟩ => le_antisymm h₂ h₁, fun h => h ▸ ⟨le_rfl, le_rfl⟩⟩

@[simp] theorem dist_self (t : SubnetID) : dist t t = 0 := by
  simp only [dist, meet_self_of_le le_rfl]
  omega

theorem eq_of_dist_eq_zero {n t : SubnetID} (hr : n.root = t.root) (h : dist n t = 0) :
    n = t := by
  have hn := depth_le_of_le (meet_le_left n t)
  have ht := depth_le_of_le (meet_le_right hr)
  unfold dist at h
  exact (eq_of_le_of_depth_le (meet_le_left n t) (by omega)).symm.trans
    (eq_of_le_of_depth_le (meet_le_right hr) (by omega))

/-! ## One hop -/

/-- Where a message for `t` goes from `n`: down to the child on the path when
    `t` lies strictly below `n`, up to the parent otherwise. -/
def nextHop (t n : SubnetID) : Option SubnetID := if n < t then t.down n else n.parent

/-- **One hop.**  Away from `t`, the next hop exists, stays under `t`'s root,
    is one hop closer, and what is left of the path is the next hop's path
    with `n` in front, `n` not on it. -/
theorem nextHop_onPath {n t : SubnetID} (hr : n.root = t.root) (hne : n ≠ t) :
    ∃ n', nextHop t n = some n' ∧ n'.root = t.root ∧ dist n' t + 1 = dist n t ∧
      (∀ v, OnPath n t v ↔ v = n ∨ OnPath n' t v) ∧ ¬ OnPath n' t n := by
  by_cases hlt : n < t
  · -- down to the child `c` on the way to `t`
    obtain ⟨hnc, hct⟩ := down_between hlt
    have hdc := depth_down hlt
    refine ⟨⟨t.root, t.children.take (n.depth + 1)⟩, by rw [nextHop, if_pos hlt, down_eq_some hlt],
      rfl, ?_, fun v => ?_, ?_⟩
    · have := depth_le_of_le hct
      simp only [dist, meet_self_of_le hct, meet_self_of_le hlt.le]
      omega
    · rw [onPath_of_le hlt.le, onPath_of_le hct]
      constructor
      · rintro ⟨hnv, hvt⟩
        refine or_iff_not_imp_left.2 fun hvn => ⟨le_of_le_of_le_of_depth hct hvt ?_, hvt⟩
        have := depth_lt_of_lt (lt_of_le_of_ne hnv (Ne.symm hvn))
        omega
      · rintro (rfl | ⟨hcv, hvt⟩)
        · exact ⟨le_rfl, hlt.le⟩
        · exact ⟨hnc.le.trans hcv, hvt⟩
    · rw [onPath_of_le hct]
      exact fun ⟨hcn, _⟩ => absurd (depth_le_of_le hcn) (by omega)
  · -- up to the parent `p`, still at or below the common parent
    have hnt : ¬ n ≤ t := fun h => hlt (lt_of_le_of_ne h hne)
    have hcn : meet n t < n :=
      lt_of_le_of_ne (meet_le_left n t) fun he => hnt (he ▸ meet_le_right hr)
    obtain ⟨p, hp, hcp⟩ := parent_of_lt hcn
    have hpn := parent_le hp
    have hdp := depth_parent hp
    have hmp := meet_of_le_of_meet_le hr hpn hcp
    refine ⟨p, by rw [nextHop, if_neg hlt, hp], hpn.1.trans hr, ?_, fun v => ?_, ?_⟩
    · have := depth_le_of_le hcp
      have := depth_le_of_le (meet_le_right hr)
      simp only [dist, hmp]
      omega
    · simp only [OnPath, hmp, hr, (hpn.1.trans hr), true_and]
      constructor
      · rintro ⟨hcv, hvn | hvt⟩
        · refine or_iff_not_imp_left.2 fun hne' => ⟨hcv, .inl ?_⟩
          have := depth_lt_of_lt (lt_of_le_of_ne hvn hne')
          exact le_of_le_of_le_of_depth hvn hpn (by omega)
        · exact .inr ⟨hcv, .inr hvt⟩
      · rintro (rfl | ⟨hcv, hvp | hvt⟩)
        · exact ⟨meet_le_left _ t, .inl le_rfl⟩
        · exact ⟨hcv, .inl (hvp.trans hpn)⟩
        · exact ⟨hcv, .inr hvt⟩
    · rintro ⟨-, -, hnp | hnt'⟩
      · exact absurd (depth_le_of_le hnp) (by omega)
      · exact hnt hnt'

/-! ## The walk -/

/-- The subnets a message for `t` visits from `n`, taking `k` hops. -/
def route (t : SubnetID) : Nat → SubnetID → List SubnetID
  | 0, n => [n]
  | k + 1, n =>
    match nextHop t n with
    | some n' => n :: route t k n'
    | none => [n]

/-- **The walk follows the tree path.**  From `n`, `dist n t` hops end at `t`,
    and visit every subnet of the path between `n` and `t` exactly once and
    nothing else. -/
theorem route_spec : ∀ (k : Nat) {n t : SubnetID}, n.root = t.root → dist n t = k →
    (route t k n).getLast? = some t ∧ (route t k n).length = k + 1 ∧ (route t k n).Nodup ∧
      ∀ v, v ∈ route t k n ↔ OnPath n t v
  | 0, n, t, hr, hd => by
    obtain rfl := eq_of_dist_eq_zero hr hd
    simp [route, onPath_self]
  | k + 1, n, t, hr, hd => by
    have hne : n ≠ t := by rintro rfl; simp at hd
    obtain ⟨n', hn', hr', hd', hpath, hnot⟩ := nextHop_onPath hr hne
    obtain ⟨hlast, hlen, hnd, hmem⟩ := route_spec k hr' (by omega)
    have hnr : n ∉ route t k n' := fun h => hnot ((hmem n).1 h)
    simp only [route, hn']
    refine ⟨?_, by simp [hlen], List.nodup_cons.2 ⟨hnr, hnd⟩, fun v => ?_⟩
    · rw [List.getLast?_cons, hlast]; rfl
    · rw [List.mem_cons, hmem, hpath]

/-- From `/0/5/7` to `/0/5/6/8`: up to the common parent `/0/5`, then down. -/
example : route ⟨0, [5, 6, 8]⟩ 3 ⟨0, [5, 7]⟩ =
    [⟨0, [5, 7]⟩, ⟨0, [5]⟩, ⟨0, [5, 6]⟩, ⟨0, [5, 6, 8]⟩] := by decide

end SubnetID

end IpcActors
