import ChartScript.Proofs.NumericOptions
import ChartScript.Proofs.Phases

/-!
# What numeric options leave in a style

Both numeric options take effect in the `init` phase, among other options, and a theorem about the
angle of the labels or the gap of the bars starts from what the phase leaves in the style.  The
order in which options take effect matters there: the flag that turns rotation off would undo the
angle if it came behind it, and a second gap factor would multiply the first.

`Pass.style_run_of_update` is the shape of the argument.  What one option settles, and every option
behind it keeps, is so after the pass; options before it count only in that none of them fails.
Which options those are is read off the list of all options in the order of their effect, with no
loop to follow, and that an option keeps a value is a case distinction over options, made once for
each value.

The results are `Pass.barGap_run_init` and `Pass.xTicsRotation_run_init`.  The first holds whatever
else is given, since the other option that could stop the pass takes effect behind it.
-/

set_option autoImplicit false

namespace ChartScript
namespace Pass

/-- Options behind others take effect if none of those fails. -/
theorem run_append (style : Style) (first second : List Assignment) :
    run style (first ++ second) =
      if (run style first).fault = none then run (run style first).style second
      else run style first := by
  induction first generalizing style with
  | nil => rfl
  | cons a rest ih =>
    rw [List.cons_append, run_cons, run_cons]
    cases a.update style with
    | ok style' => exact ih style'
    | error fault => rfl

/-- What an option settles and the options behind it keep is so after the pass. -/
theorem style_run_of_update {P : Style → Prop} {style style' : Style} {a : Assignment}
    {before after : List Assignment} (hbefore : (run style before).fault = none)
    (hupdate : a.update (run style before).style = .ok style') (hstyle : P style')
    (hafter : ∀ b ∈ after, ∀ s s', P s → b.update s = .ok s' → P s') :
    P (run style (before ++ a :: after)).style := by
  rw [run_append, if_pos hbefore, run_cons, hupdate]
  exact run_induction hafter hstyle

end Pass

namespace Assignment

variable {a : Assignment} {style style' : Style}

/-- Only the gap factor changes the gap, among the options of the `init` phase. -/
theorem barGap_update (hphase : a.phase = .init) (hkey : a.key ≠ .setting .gapFactor)
    (hupdate : a.update style = .ok style') : style'.barGap = style.barGap := by
  have hreadable : ¬a.HoldsUnreadable := by
    intro hunreadable
    obtain ⟨fault, hfault⟩ := update_of_holdsUnreadable hunreadable style
    exact absurd (hfault.symm.trans hupdate) (by simp)
  obtain ⟨other, hother, hkept⟩ : ∃ other, a.update style = .ok other ∧
      (a.key ≠ .setting .gapFactor → other.barGap = style.barGap) :=
    update_of_not_holdsUnreadable hphase hreadable fun h => absurd h hkey
  obtain rfl : other = style' := Except.ok.inj (hother.symm.trans hupdate)
  exact hkept hkey

theorem update_gapFactor {value : Text} {number gap : Binary64}
    (hnumber : leadingNumber value = .ok number)
    (hgap : multiplyGap style.barGap number = .ok gap) :
    (setting .gapFactor value).update style = .ok { style with barGap := gap } := by
  simp [update, Setting.update?, hnumber, hgap, Except.map]

theorem update_rotateBy {value : Text} {number : Binary64}
    (hnumber : leadingNumber value = .ok number) :
    (setting .rotateBy value).update style = .ok { style with xTicsRotation := number.abs } := by
  simp [update, Setting.update?, hnumber]

/-- Only the angle and the flag that turns rotation off change the rotation. -/
theorem xTicsRotation_update (hphase : a.phase = .init) (hflag : a.key ≠ .flag .noRotate)
    (hkey : a.key ≠ .setting .rotateBy) (hupdate : a.update style = .ok style') :
    style'.xTicsRotation = style.xTicsRotation := by
  cases a with
  | flag f =>
    cases f with
    | noRotate => exact absurd rfl hflag
    | _ =>
      cases hupdate
      rfl
  | repeated r values => exact absurd hphase (by simp [phase, key, Key.phase, Repeated.phase])
  | setting s value =>
    cases s with
    | rotateBy => exact absurd rfl hkey
    | gapFactor =>
      rw [update, Setting.update?] at hupdate
      dsimp only at hupdate
      split at hupdate
      · exact absurd hupdate (by simp)
      · obtain ⟨gap, -, rfl⟩ := exists_of_map_eq_ok hupdate
        rfl
    | barWidth | maxY | minY | setLabelShift =>
      cases hupdate
      rfl
    | _ => exact absurd hphase (by simp [phase, key, Key.phase, Setting.phase])

end Assignment

namespace Pass

variable {store : Store} {value : Text} {number : Binary64}

/-- The gap after the `init` phase is the one that a style starts with, multiplied by the number
that was given, whatever other options are given. -/
theorem barGap_run_init (hvalue : store.settings .gapFactor = some value)
    (hnumber : leadingNumber value = .ok number) {gap : Binary64}
    (hgap : multiplyGap (.ofNat 1) number = .ok gap) :
    (run {} (store.assignments .init)).style.barGap = gap := by
  obtain ⟨before, after, hsplit, hother⟩ := Store.exists_assignments_eq hvalue
  have horder := (Store.effectOrder_of_assignments_eq hsplit).1
  obtain ⟨hbefore, hafter⟩ := List.forall_mem_append.mp hother
  replace hsplit : store.assignments .init = before ++ .setting .gapFactor value :: after := hsplit
  have hphase : ∀ a ∈ before ++ .setting .gapFactor value :: after, a.phase = .init :=
    fun a ha => Store.phase_of_mem_assignments (hsplit ▸ ha)
  have hnodup := store.nodup_keys_assignments .init
  rw [hsplit, List.map_append] at hnodup
  have hstart : ({} : Style).barGap = .ofNat 1 := by dsimp only
  have hone : (run {} before).style.barGap = .ofNat 1 :=
    run_induction (P := fun style => style.barGap = .ofNat 1)
      (fun a ha s s' hs hupdate => (Assignment.barGap_update
        (hphase a (List.mem_append_left _ ha)) (hbefore a ha) hupdate).trans hs) hstart
  -- the other numeric option comes behind, so nothing that comes before can fail
  have hnot : ¬[Key.setting .rotateBy, .setting .gapFactor].Sublist Store.effectOrder := by decide
  have hreadable : ∀ a ∈ before, ¬a.HoldsUnreadable := by
    rintro (f | ⟨s, other⟩ | ⟨r, values⟩) ha hunreadable
    · exact hunreadable
    · cases s with
      | gapFactor => exact hbefore _ ha rfl
      | rotateBy => exact hnot (horder _ ha)
      | _ => exact absurd hunreadable.1 (by decide)
    · exact hunreadable
  rw [hsplit]
  refine style_run_of_update (P := fun style => style.barGap = gap) ?_
    (Assignment.update_gapFactor hnumber (by rw [hone]; exact hgap)) (by dsimp only)
    fun a ha s s' hs hupdate => ?_
  · rcases fault_run_init (fun a ha => hphase a (List.mem_append_left _ ha)) hnodup.of_append_left
      (fun _ => hstart) with ⟨hnone, -⟩ | ⟨-, a, ha, hunreadable⟩
    · exact hnone
    · exact absurd hunreadable (hreadable a ha)
  · exact (Assignment.barGap_update (hphase a (by simp [ha])) (hafter a ha) hupdate).trans hs

/-- The rotation after the `init` phase is the number that was given, without its sign, unless
another option fails. -/
theorem xTicsRotation_run_init (hvalue : store.settings .rotateBy = some value)
    (hnumber : leadingNumber value = .ok number)
    (hfault : (run {} (store.assignments .init)).fault = none) :
    (run {} (store.assignments .init)).style.xTicsRotation = number.abs := by
  obtain ⟨before, after, hsplit, hother⟩ := Store.exists_assignments_eq hvalue
  have horder := (Store.effectOrder_of_assignments_eq hsplit).2
  obtain ⟨-, hafter⟩ := List.forall_mem_append.mp hother
  replace hsplit : store.assignments .init = before ++ .setting .rotateBy value :: after := hsplit
  have hphase : ∀ a ∈ before ++ .setting .rotateBy value :: after, a.phase = .init :=
    fun a ha => Store.phase_of_mem_assignments (hsplit ▸ ha)
  rw [hsplit] at hfault ⊢
  refine style_run_of_update (P := fun style => style.xTicsRotation = number.abs) ?_
    (Assignment.update_rotateBy hnumber) (by dsimp only) fun a ha s s' hs hupdate => ?_
  · rw [run_append] at hfault
    split at hfault
    · next hnone => exact hnone
    · exact hfault
  · -- rotation is turned off before the angle is set
    have hnot : ¬[Key.setting .rotateBy, .flag .noRotate].Sublist Store.effectOrder := by decide
    have hflag : a.key ≠ .flag .noRotate := fun hkey => hnot (hkey ▸ horder a ha)
    exact (Assignment.xTicsRotation_update (hphase a (by simp [ha])) hflag (hafter a ha)
      hupdate).trans hs

end Pass

theorem Description.xTicsRotation_initialStyle {d : Description} {value : Text} {number : Binary64}
    (hvalue : d.store.settings .rotateBy = some value) (hnumber : leadingNumber value = .ok number)
    {style : Style} (h : d.initialStyle = .ok style) : style.xTicsRotation = number.abs := by
  have hrotation := Pass.xTicsRotation_run_init hvalue hnumber
  rw [initialStyle_eq] at h
  split at h
  · next heq =>
    cases h
    rw [heq] at hrotation
    exact hrotation rfl
  · exact absurd h (by simp)

end ChartScript
