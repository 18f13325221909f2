import Songmaker.Lora.LoraTraining

namespace Songmaker.Lora

open Songmaker.Foundation
open Songmaker.Foundation.Program (survives_bind survives_call)
open Songmaker.Jobs

variable {File : Type}

section Steps

variable {invariant : LoraSite File → Prop} {site : LoraSite File}

theorem survives_onDisk {α : Type} (action : Atomic (LoraDisk File) α)
    {post : α → LoraSite File → Prop} (hsite : invariant site)
    (htorn : ∀ disk, action.torn site.disk disk → invariant (site.setDisk disk))
    (hrun : invariant (site.setDisk (action.run site.disk).2))
    (hpost : post (action.run site.disk).1 (site.setDisk (action.run site.disk).2)) :
    (onDisk action).Survives invariant post site := by
  refine ⟨hsite, ?_, hrun, hpost⟩
  rintro torn ⟨disk, hdisk, rfl⟩
  exact htorn disk hdisk

@[simp] theorem survives_exists (path : LoraPath) {post : Bool → LoraSite File → Prop} :
    (onDisk (Disk.exists? path)).Survives invariant post site ↔
      invariant site ∧ post (site.disk path).isSome site := by
  constructor
  · rintro ⟨hsite, -, -, hpost⟩
    exact ⟨hsite, hpost⟩
  · rintro ⟨hsite, hpost⟩
    exact survives_onDisk _ hsite (fun _ h => h.elim) hsite hpost

@[simp] theorem survives_isDir (path : LoraPath) {post : Bool → LoraSite File → Prop} :
    (onDisk (Disk.isDir? path)).Survives invariant post site ↔
      invariant site ∧ post (site.disk.isDirectory path) site := by
  constructor
  · rintro ⟨hsite, -, -, hpost⟩
    exact ⟨hsite, hpost⟩
  · rintro ⟨hsite, hpost⟩
    exact survives_onDisk _ hsite (fun _ h => h.elim) hsite hpost

@[simp] theorem survives_readText (path : LoraPath)
    {post : Option (Option CompletedLoraTrainingModeRecord) → LoraSite File → Prop} :
    (onDisk (Disk.readText path)).Survives invariant post site ↔
      invariant site ∧ post ((site.disk path).bind Entry.text?) site := by
  constructor
  · rintro ⟨hsite, -, -, hpost⟩
    exact ⟨hsite, hpost⟩
  · rintro ⟨hsite, hpost⟩
    exact survives_onDisk _ hsite (fun _ h => h.elim) hsite hpost

theorem survives_rename {source target : LoraPath} {post : Bool → LoraSite File → Prop}
    (hsite : invariant site)
    (hmoved : ∀ entry, site.disk source = some entry →
      Disk.replaceable entry (site.disk target) = true →
      let moved := site.setDisk ((site.disk.put source none).put target (some entry))
      invariant moved ∧ post true moved)
    (hrefused : (∀ entry, site.disk source = some entry →
      Disk.replaceable entry (site.disk target) = false) → post false site) :
    (onDisk (Disk.rename source target)).Survives invariant post site := by
  have hrun : invariant (site.setDisk ((Disk.rename source target).run site.disk).2) ∧
      post ((Disk.rename source target).run site.disk).1
        (site.setDisk ((Disk.rename source target).run site.disk).2) := by
    simp only [Disk.rename, Atomic.update]
    cases hsource : site.disk source with
    | none =>
        refine ⟨hsite, hrefused ?_⟩
        rintro entry hentry
        rw [hsource] at hentry
        cases hentry
    | some entry =>
        by_cases htarget : Disk.replaceable entry (site.disk target) = true
        · simp only [htarget, if_true]
          exact hmoved entry hsource htarget
        · simp only [htarget]
          refine ⟨hsite, hrefused ?_⟩
          intro other hother
          rw [hsource] at hother
          cases hother
          exact Bool.eq_false_iff.mpr htarget
  exact survives_onDisk _ hsite (fun _ h => h.elim) hrun.1 hrun.2

theorem survives_rmtree {path : LoraPath} {post : Bool → LoraSite File → Prop}
    (hsite : invariant site)
    (htorn : ∀ files, invariant (site.setDisk (site.disk.put path (some (.directory files)))))
    (hremoved : site.disk.isDirectory path = true →
      let removed := site.setDisk (site.disk.put path none)
      invariant removed ∧ post true removed)
    (hrefused : site.disk.isDirectory path = false → post false site) :
    (onDisk (Disk.rmtree path)).Survives invariant post site := by
  have hrun : invariant (site.setDisk ((Disk.rmtree path).run site.disk).2) ∧
      post ((Disk.rmtree path).run site.disk).1
        (site.setDisk ((Disk.rmtree path).run site.disk).2) := by
    simp only [Disk.rmtree]
    cases hpath : site.disk.isDirectory path with
    | true => exact hremoved hpath
    | false => exact ⟨hsite, hrefused hpath⟩
  refine survives_onDisk _ hsite ?_ hrun.1 hrun.2
  rintro disk ⟨files, left, -, -, rfl⟩
  exact htorn left

theorem survives_unlink {path : LoraPath} {post : Bool → LoraSite File → Prop}
    (hsite : invariant site)
    (hremoved : let removed := site.setDisk (site.disk.put path none)
      invariant removed ∧ post true removed)
    (hrefused : post false site) :
    (onDisk (Disk.unlink path)).Survives invariant post site := by
  have hrun : invariant (site.setDisk ((Disk.unlink path).run site.disk).2) ∧
      post ((Disk.unlink path).run site.disk).1
        (site.setDisk ((Disk.unlink path).run site.disk).2) := by
    simp only [Disk.unlink, Atomic.update]
    cases hpath : site.disk.isDirectory path with
    | true => exact ⟨hsite, hrefused⟩
    | false => exact hremoved
  exact survives_onDisk _ hsite (fun _ h => h.elim) hrun.1 hrun.2

theorem survives_orRaise {action : Atomic (LoraDisk File) Bool} {error : String}
    {post : Unit → LoraSite File → Prop}
    (h : (onDisk action).Survives invariant (fun accepted t => accepted = true → post () t) site) :
    (onDiskOrRaise action error).Survives invariant post site := by
  unfold onDiskOrRaise
  rw [survives_bind]
  refine h.mono ?_
  intro accepted t ht hpost
  cases accepted with
  | true => exact ⟨ht, hpost rfl⟩
  | false => exact ht

theorem survives_renameOrRaise {source target : LoraPath} {error : String}
    {post : Unit → LoraSite File → Prop} (hsite : invariant site)
    (hmoved : ∀ entry, site.disk source = some entry →
      Disk.replaceable entry (site.disk target) = true →
      let moved := site.setDisk ((site.disk.put source none).put target (some entry))
      invariant moved ∧ post () moved) :
    (onDiskOrRaise (Disk.rename source target) error).Survives invariant post site := by
  apply survives_orRaise
  apply survives_rename hsite
  · intro entry hentry hfree
    obtain ⟨hinvariant, hpost⟩ := hmoved entry hentry hfree
    exact ⟨hinvariant, fun _ => hpost⟩
  · rintro - ⟨⟩

theorem survives_rmtreeOrRaise {path : LoraPath} {error : String}
    {post : Unit → LoraSite File → Prop} (hsite : invariant site)
    (htorn : ∀ files, invariant (site.setDisk (site.disk.put path (some (.directory files)))))
    (hremoved : let removed := site.setDisk (site.disk.put path none)
      invariant removed ∧ post () removed) :
    (onDiskOrRaise (Disk.rmtree path) error).Survives invariant post site := by
  apply survives_orRaise
  apply survives_rmtree hsite htorn
  · intro _
    exact ⟨hremoved.1, fun _ => hremoved.2⟩
  · rintro - ⟨⟩

theorem survives_require {path : LoraPath} {description : String}
    {post : Unit → LoraSite File → Prop} (hsite : invariant site)
    (hpost : site.disk path = none ∨ site.disk.isDirectory path = true → post () site) :
    (requireLoraAdapterDirectory path description).Survives invariant post site := by
  unfold requireLoraAdapterDirectory
  rw [survives_bind, survives_exists]
  refine ⟨hsite, ?_⟩
  cases hpath : site.disk path with
  | none => exact ⟨hsite, hpost (.inl hpath)⟩
  | some entry =>
      simp only [Option.isSome_some, if_true]
      rw [survives_bind, survives_isDir]
      refine ⟨hsite, ?_⟩
      cases hdirectory : site.disk.isDirectory path with
      | true => exact ⟨hsite, hpost (.inr hdirectory)⟩
      | false => exact hsite

theorem survives_writeText {path : LoraPath} {text : Option CompletedLoraTrainingModeRecord}
    {post : Bool → LoraSite File → Prop} (hsite : invariant site)
    (htorn : ∀ text', invariant (site.setDisk (site.disk.put path (some (.file text')))))
    (hwritten : post true (site.setDisk (site.disk.put path (some (.file text)))))
    (hrefused : post false site) :
    (onDisk (Disk.writeText path text)).Survives invariant post site := by
  have hrun : invariant (site.setDisk ((Disk.writeText path text).run site.disk).2) ∧
      post ((Disk.writeText path text).run site.disk).1
        (site.setDisk ((Disk.writeText path text).run site.disk).2) := by
    simp only [Disk.writeText]
    cases site.disk.isDirectory path with
    | true => exact ⟨hsite, hrefused⟩
    | false => exact ⟨htorn text, hwritten⟩
  refine survives_onDisk _ hsite ?_ hrun.1 hrun.2
  rintro disk ⟨-, text', rfl⟩
  exact htorn text'

theorem survives_commit {α : Type}
    {transaction : LoraSite File → Except String (α × LoraSite File)}
    {post : α → LoraSite File → Prop} (hsite : invariant site)
    (hcommit : ∀ result site', transaction site = .ok (result, site') →
      invariant site' ∧ post result site') :
    (commit transaction).Survives invariant post site := by
  unfold commit
  rw [survives_bind, survives_call]
  simp only [Atomic.update]
  cases htransaction : transaction site with
  | error error => exact ⟨hsite, fun _ h => h.elim, hsite, hsite⟩
  | ok result =>
      obtain ⟨hinvariant, hpost⟩ := hcommit result.1 result.2 htransaction
      exact ⟨hsite, fun _ h => h.elim, hinvariant, hinvariant, hpost⟩

end Steps

end Songmaker.Lora
