import PadScribe.CommandLine
import PadScribe.Launch
import PadScribe.Main
import PadScribe.Panel
import PadScribe.Text.CharClass
import PadScribe.Proofs.Run
import PadScribe.Proofs.Setup
import PadScribe.Proofs.Grips
import PadScribe.Proofs.Handling
import PadScribe.Proofs.Inputs
import PadScribe.Proofs.Moves
import PadScribe.Proofs.Installing
import PadScribe.Proofs.Events
import PadScribe.Proofs.Gate
import PadScribe.Proofs.Latching
import PadScribe.Proofs.Quiet
import PadScribe.Proofs.Releasing
import PadScribe.Proofs.Holding
import PadScribe.Proofs.Returning
import PadScribe.Proofs.Shifting
import PadScribe.Proofs.Phrases
import PadScribe.Proofs.PhraseSets
import PadScribe.Proofs.Reading
import PadScribe.Proofs.Replaying
import PadScribe.Proofs.Work
import PadScribe.Proofs.Steering
import PadScribe.Proofs.Leaving
import PadScribe.Proofs.Overlooking
import PadScribe.Proofs.Refusing
import PadScribe.Proofs.Numbers
import PadScribe.Proofs.Edges
import PadScribe.Proofs.Rejecting
import PadScribe.Proofs.Failing
import PadScribe.Proofs.Hooks
import PadScribe.Proofs.Compiling
import PadScribe.Proofs.Utterances
import PadScribe.Proofs.Quoting
import PadScribe.Proofs.KeyNames
import PadScribe.Proofs.Writing
import PadScribe.Proofs.CaseWords
import PadScribe.Proofs.Leads
import PadScribe.Proofs.Deeds
import PadScribe.Proofs.Tapping
import PadScribe.Proofs.Remembering
import PadScribe.Proofs.Streaming
import PadScribe.Proofs.Numerals
import PadScribe.Proofs.Styling
import PadScribe.Proofs.Sharing
import PadScribe.Proofs.Emptying
import PadScribe.Proofs.Stalling
import PadScribe.Proofs.Segments
import PadScribe.Proofs.NumberRuns
import PadScribe.Proofs.MappingLines
import PadScribe.Proofs.Phases
import PadScribe.Proofs.Multipliers
import PadScribe.Proofs.WrittenLines
import PadScribe.Proofs.Digits
import PadScribe.Proofs.SpokenDelays
import PadScribe.Proofs.Durations
import PadScribe.Proofs.Forwarding
import PadScribe.Proofs.Presses
import PadScribe.Proofs.Reversing
import PadScribe.Proofs.Recasing
import PadScribe.Proofs.HeldKeys
import PadScribe.Proofs.PointerCalls
import PadScribe.Proofs.WrittenConfigs
import PadScribe.Proofs.SilentWords
import PadScribe.Proofs.OwnWords
