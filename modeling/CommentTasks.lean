import CommentTasks.Main
import CommentTasks.Proofs.Run.Again
import CommentTasks.Proofs.Run.Failure
import CommentTasks.Proofs.Run.Note
import CommentTasks.Proofs.Text.Occurrence
import CommentTasks.Proofs.Comment.Greedy
import CommentTasks.Proofs.CommandLine.Outcome
import CommentTasks.Proofs.Run.Report
import CommentTasks.Proofs.Run.Outputs
import CommentTasks.Proofs.Settings.File
import CommentTasks.Proofs.CommandLine.Settings
import CommentTasks.Proofs.Run.Fails
import CommentTasks.Proofs.Run.Escape
import CommentTasks.Proofs.CommandLine.Exit
import CommentTasks.Proofs.Comment.Place
import CommentTasks.Proofs.Comment.Keyword
import CommentTasks.Proofs.Comment.Arrangement
import CommentTasks.Proofs.Comment.Spelling
import CommentTasks.Proofs.Comment.Message
import CommentTasks.Proofs.Comment.Tags
import CommentTasks.Proofs.Comment.Recognition
import CommentTasks.Proofs.Task.Ambiguity
import CommentTasks.Proofs.Source.Walk
import CommentTasks.Proofs.Note.Additions
import CommentTasks.Proofs.Source.Marked
import CommentTasks.Proofs.CommandLine.Flags
import CommentTasks.Proofs.Calendar.Stamp
import CommentTasks.Proofs.Source.Extension
import CommentTasks.Proofs.Run.Lines
