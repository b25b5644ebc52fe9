import ShellLaunch.Main
import ShellLaunch.Resolver
import ShellLaunch.Proofs.Draft
import ShellLaunch.Proofs.Reading.Basic
import ShellLaunch.Proofs.Reading.Run
import ShellLaunch.Proofs.Reading.Refusal
import ShellLaunch.Proofs.Reading.Fields
import ShellLaunch.Proofs.Reading.Step
import ShellLaunch.Proofs.Reading.Accepted
import ShellLaunch.Proofs.Reading.Order
import ShellLaunch.Proofs.Reading.Finish
import ShellLaunch.Proofs.Resolution
import ShellLaunch.Proofs.Refinement
import ShellLaunch.Proofs.Consistency
import ShellLaunch.Proofs.Failure
import ShellLaunch.Proofs.Extension
import ShellLaunch.Proofs.Commutation
import ShellLaunch.Proofs.Capability
import ShellLaunch.Proofs.StandardInput
import ShellLaunch.Proofs.Diagnosis
import ShellLaunch.Proofs.Encoding.Base64
import ShellLaunch.Proofs.SingleSource
import ShellLaunch.Proofs.Encoding.Command
import ShellLaunch.Proofs.Text.Cut
import ShellLaunch.Proofs.Encoding.ArgumentList
import ShellLaunch.Proofs.Encoding.Serialization
import ShellLaunch.Proofs.Spelling
import ShellLaunch.Proofs.Pool
import ShellLaunch.Proofs.Settings
import ShellLaunch.Proofs.Json
import ShellLaunch.Proofs.JsonGrammar
import ShellLaunch.Proofs.Outcome
import ShellLaunch.Proofs.Abbreviation
import ShellLaunch.Proofs.Encoding.Reference
import ShellLaunch.Proofs.Encoding.UnitSearch
import ShellLaunch.Proofs.Path
import ShellLaunch.Proofs.Resubmission
import ShellLaunch.Proofs.Changes
import ShellLaunch.Proofs.Text.Blank
import ShellLaunch.Proofs.WindowStyle
import ShellLaunch.Proofs.Suggestion
import ShellLaunch.Proofs.ParameterName
