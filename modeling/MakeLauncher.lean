import MakeLauncher.Main
import MakeLauncher.Proofs.Arguments
import MakeLauncher.Proofs.Settings
import MakeLauncher.Proofs.Decoding
import MakeLauncher.Proofs.Root
import MakeLauncher.Proofs.Launch.Course
import MakeLauncher.Proofs.Launch.Stages
import MakeLauncher.Proofs.Launch.Calls
import MakeLauncher.Proofs.Launch.ChosenMake
import MakeLauncher.Proofs.Launch.Configuration
import MakeLauncher.Proofs.Launch.Noninterference
import MakeLauncher.Proofs.Launch.Log
import MakeLauncher.Proofs.Subscriber
import MakeLauncher.Proofs.WaitStatus
import MakeLauncher.Proofs.CommandLine
import MakeLauncher.Proofs.Assignment
import MakeLauncher.Proofs.Classification
import MakeLauncher.Proofs.Launch.Protocol
import MakeLauncher.Proofs.Launch.Standpoint
import MakeLauncher.Proofs.Writing
import MakeLauncher.Proofs.Parts
import MakeLauncher.Proofs.Launch.Sources
import MakeLauncher.Proofs.Trimming
import MakeLauncher.Proofs.Launch.Places
import MakeLauncher.Proofs.HostNames
import MakeLauncher.Proofs.Launch.Conversion
import MakeLauncher.Proofs.Launch.Detection
import MakeLauncher.Proofs.Launch.Account
import MakeLauncher.Proofs.Commands
import MakeLauncher.Proofs.Walks
import MakeLauncher.Proofs.Programs
import MakeLauncher.Proofs.Launch.Started
