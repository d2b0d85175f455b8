import FuzzCampaign.Lifecycle.ShellResetter
set_option autoImplicit false

/-! # What a resetter holds

A resetter holds a dispatcher and the files of a script set, and the parts of a phase change one of them or
both: `apart` is the resetter without its dispatcher, and `runPhase_apart` says what becomes of the files. -/

namespace FuzzCampaign.ShellResetter

variable {ω : Type} (host : ShellHost ω)

/-! ## Apart from the dispatcher -/

/-- A resetter but for its dispatcher and what scripts printed. -/
def apart (r : ShellResetter) : ShellResetter := { r with dispatcher := none, shown := [] }

section
variable (r : ShellResetter) (s : ω)

theorem apart_listen : (r.listen host s).1.apart = r.apart := by
  unfold listen
  split <;> rfl

theorem apart_dropDispatcher : (r.dropDispatcher host s).1.apart = r.apart := by
  unfold dropDispatcher
  split
  · rfl
  · exact apart_listen host r s

theorem apart_respawn (set : ScriptSet) : (r.respawn host set s).2.1.apart = r.apart := by
  have hlisten := apart_listen host r s
  unfold respawn
  dsimp only
  split
  · exact hlisten
  · exact (apart_dropDispatcher host _ _).trans hlisten

theorem apart_takeDispatcher (set : ScriptSet) : (r.takeDispatcher host set s).2.1.apart = r.apart := by
  unfold takeDispatcher
  split
  · rfl
  · split
    · rfl
    · exact apart_respawn host r s set

theorem apart_runOn (set : ScriptSet) (phase : Phase) (cancelled : Bool) :
    (r.runOn host set phase cancelled s).2.1.apart = r.apart := by
  have htake := apart_takeDispatcher host r s set
  unfold runOn
  split
  · rfl
  · split
    · next h => rwa [h] at htake
    · next h =>
      rw [h] at htake
      dsimp only
      split
      · exact htake
      · exact (apart_dropDispatcher host _ _).trans htake

theorem apart_shutdown : (r.shutdown host s).2.1.apart = r.apart := by
  unfold shutdown
  split <;> rfl

end

/-! ## Files -/

theorem apart_removeFiles (r : ShellResetter) (s : ω) :
    (r.removeFiles host s).1.apart = { r.apart with files := none } := by
  obtain ⟨scripts, timeout, markers, files, dispatcher, first, started, shown, attempted⟩ := r
  cases files <;> rfl

/-- Files that are there stay, and after a success there are files of the environment that was asked for. -/
theorem renewFiles_apart (r : ShellResetter) (env : EnvSnapshot) (s : ω) :
    ∃ files, (r.renewFiles host env s).2.1.apart = { r.apart with files } ∧
      (files = r.files ∨ ∃ set, files = some (set, env)) ∧
      ((r.renewFiles host env s).1 = .ok () → ∃ set, files = some (set, env)) := by
  unfold renewFiles
  split
  · exact ⟨r.files, rfl, Or.inl rfl, nofun⟩
  · next set s' _ =>
    refine ⟨some (set, env), ?_, Or.inr ⟨set, rfl⟩, fun _ => ⟨set, rfl⟩⟩
    exact congrArg (fun r : ShellResetter => { r with files := some (set, env) }) (apart_removeFiles host r s')

theorem ensureFiles_apart (r : ShellResetter) (env : EnvSnapshot) (s : ω) :
    ∃ files, (r.ensureFiles host env s).2.1.apart = { r.apart with files } ∧
      (files = r.files ∨ ∃ set, files = some (set, env)) ∧
      ((r.ensureFiles host env s).1 = .ok () → ∃ set, files = some (set, env)) := by
  unfold ensureFiles
  split
  · exact renewFiles_apart host r env s
  · next set current hfiles =>
    split
    · next hsame =>
      subst hsame
      exact ⟨some (set, current), by rw [← hfiles]; rfl, Or.inl hfiles.symm, fun _ => ⟨set, rfl⟩⟩
    · have hdrop := apart_dropDispatcher host r s
      have hkept : (r.dropDispatcher host s).1.files = r.files := (congrArg ShellResetter.files hdrop :)
      have hrenewed := renewFiles_apart host (r.dropDispatcher host s).1 env (r.dropDispatcher host s).2
      rwa [hdrop, hkept] at hrenewed

/-- A phase changes no more than the files, apart from the dispatcher: they stay or are made for its
environment, and are there when it succeeds. -/
theorem runPhase_apart (r : ShellResetter) (phase : Phase) (env : EnvSnapshot) (cancelled : Bool) (s : ω) :
    ∃ files, (r.runPhase host phase env cancelled s).2.1.apart = { r.apart with files } ∧
      (files = r.files ∨ ∃ set, files = some (set, env)) ∧
      ((r.runPhase host phase env cancelled s).1 = .ok () → ∃ set, files = some (set, env)) := by
  obtain ⟨files, hensured, hfiles, hok⟩ := ensureFiles_apart host r env s
  unfold runPhase
  split
  · exact ⟨r.files, rfl, Or.inl rfl, nofun⟩
  · split
    · next h =>
      rw [h] at hensured
      exact ⟨files, hensured, hfiles, nofun⟩
    · next h =>
      rw [h] at hensured hok
      split
      · exact ⟨files, hensured, hfiles, nofun⟩
      · exact ⟨files, (apart_runOn host _ _ _ _ _).trans hensured, hfiles, fun _ => hok rfl⟩

end FuzzCampaign.ShellResetter
