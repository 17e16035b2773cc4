import StudentRoster.Proofs.CommandLine.Blocks
import StudentRoster.Proofs.Program.SettingsCommand

/-!
# The places of options

A run is the same wherever the options stand: in front of the name of a command, behind it, or alone
in front of the name of the command to list that is left out.
-/

set_option autoImplicit false

namespace StudentRoster

open CommandLine (SpellsOptions SpellsWords)

namespace Program

/-- A block of options in which only the option for a file to load is repeated gives a command that
takes its words the same options in front of its name and behind it, so every run with the one is
the run with the other. Without a name the run is that of the command to list. -/
theorem options_stand_anywhere {block : List String} {uses : List OptionUse}
    (hblock : SpellsOptions block uses) (honce : Options.UsedOnce uses)
    (environment : Environment) (tree : FileTree) :
    (∀ (word : String) (name : CommandName) (arguments words : List String) (command : Command),
      CommandName.ofWord? word = some name → SpellsWords arguments words →
        name.Takes words command →
        execute environment (block ++ word :: arguments) tree =
            execute environment (word :: (block ++ arguments)) tree ∧
          execute environment (word :: (block ++ arguments)) tree =
            run environment ⟨.ofUses uses, command⟩ tree) ∧
      execute environment block tree = execute environment (block ++ ["list"]) tree ∧
      execute environment block tree = run environment ⟨.ofUses uses, .list⟩ tree := by
  have hplaces (word : String) (name : CommandName) (arguments words : List String)
      (command : Command) (hname : CommandName.ofWord? word = some name)
      (hwords : SpellsWords arguments words) (htakes : name.Takes words command) :
      execute environment (block ++ word :: arguments) tree =
          run environment ⟨.ofUses uses, command⟩ tree ∧
        execute environment (word :: (block ++ arguments)) tree =
          run environment ⟨.ofUses uses, command⟩ tree := by
    constructor
    · rw [execute, CommandLine.parse_block_in_front hblock honce hname hwords htakes]
    · rw [execute, CommandLine.parse_block_behind hblock honce hname hwords htakes]
  have halone : execute environment block tree =
      run environment ⟨.ofUses uses, .list⟩ tree := by
    rw [execute, CommandLine.parse_block hblock honce]
  refine ⟨fun word name arguments words command hname hwords htakes => ?_, ?_, halone⟩
  · obtain ⟨hfront, hbehind⟩ := hplaces word name arguments words command hname hwords htakes
    exact ⟨hfront.trans hbehind.symm, hbehind⟩
  · have hlist := hplaces "list" .list [] [] .list rfl (.plain (List.forall_mem_nil _)) .list
    exact halone.trans hlist.1.symm

/-- A block with all the options, in letters, long names, and values of each kind, around a look-up
of a negative id. -/
theorem options_stand_anywhere_mixed :
    let block := ["-nvia.txt", "--input=b.txt", "-i", "c.txt", "-o=out.txt"]
    let options : Options := ⟨["a.txt", "b.txt", "c.txt"], some "out.txt", true, true⟩
    let environment := surroundings "config"
    let tree := FileTree.empty ["work"]
    (execute environment (block ++ ["get", "--", "-5"]) tree =
        execute environment ("get" :: (block ++ ["--", "-5"])) tree ∧
      execute environment ("get" :: (block ++ ["--", "-5"])) tree =
        run environment ⟨options, .get (-5)⟩ tree) ∧
      execute environment block tree = execute environment (block ++ ["list"]) tree ∧
      execute environment block tree = run environment ⟨options, .list⟩ tree := by
  intro block options environment tree
  have hblock : SpellsOptions block
      [.normalize, .verbose, .input "a.txt", .input "b.txt", .input "c.txt", .output "out.txt"] :=
    Token.spellsOptions_iff.mpr (by decide +kernel)
  have honce : Options.UsedOnce
      [.normalize, .verbose, .input "a.txt", .input "b.txt", .input "c.txt", .output "out.txt"] :=
    ⟨by decide, by decide, by decide⟩
  obtain ⟨hplaces, halone⟩ := options_stand_anywhere hblock honce environment tree
  refine ⟨?_, halone⟩
  exact hplaces "get" .get ["--", "-5"] ["-5"] (.get (-5)) rfl
    (.separated ["-5"] (List.forall_mem_nil _)) (.get (by decide +kernel))

end Program

end StudentRoster
