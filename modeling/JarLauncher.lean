import JarLauncher.Beside
import JarLauncher.Console.Scripted
import JarLauncher.Main
import JarLauncher.Session
import JarLauncher.Trace
import JarLauncher.Proofs.Lists
import JarLauncher.Proofs.Attempt
import JarLauncher.Proofs.WriteLoop
import JarLauncher.Proofs.Announcement
import JarLauncher.Proofs.Independence
import JarLauncher.Proofs.Utf8.Encoding
import JarLauncher.Proofs.Utf8.Segments
import JarLauncher.Proofs.Utf8.Ascii
import JarLauncher.Proofs.Display
import JarLauncher.Proofs.Quoting
import JarLauncher.Proofs.Journal.Lines
import JarLauncher.Proofs.Journal.Replay
import JarLauncher.Proofs.Journal.Announced
import JarLauncher.Interleaving
import JarLauncher.Proofs.Guard
import JarLauncher.Proofs.Series
import JarLauncher.Proofs.Interleaving
import JarLauncher.Proofs.Journal.Calls
import JarLauncher.Proofs.Journal.Launches
import JarLauncher.Proofs.Utf8.Occurrence
import JarLauncher.Proofs.Sensitive
import JarLauncher.Proofs.Session.Step
import JarLauncher.Proofs.Session.Family
import JarLauncher.Proofs.Session.Sharing
import JarLauncher.Proofs.Cli
import JarLauncher.Proofs.Utf8.Subparts
import JarLauncher.Proofs.Utf8.Reading
import JarLauncher.Proofs.CommandLine
import JarLauncher.Proofs.Log.Account
import JarLauncher.Proofs.Log.Quoted
import JarLauncher.Proofs.Unix.Scene
