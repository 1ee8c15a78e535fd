import ChatBot.Console
import ChatBot.Main
import ChatBot.Proofs.Bot.Agreement
import ChatBot.Proofs.Bot.Load
import ChatBot.Proofs.Bot.Matching
import ChatBot.Proofs.Bot.Replies
import ChatBot.Proofs.Bot.Shutdown
import ChatBot.Proofs.Bot.Stopping
import ChatBot.Proofs.Bot.Ticking
import ChatBot.Proofs.Bot.Uses
import ChatBot.Proofs.Command.Help
import ChatBot.Proofs.Config.RoundTrip
import ChatBot.Proofs.Evaluation.Requests
import ChatBot.Proofs.Evaluation.Scopes
import ChatBot.Proofs.Evaluation.Traces
import ChatBot.Proofs.Evaluation.Turns
import ChatBot.Proofs.Event.Snapshot
import ChatBot.Proofs.Node.Balance
import ChatBot.Proofs.Node.Limit
import ChatBot.Proofs.Node.Unparse
import ChatBot.Proofs.Text.Form
import ChatBot.Proofs.Token.Canonical
import ChatBot.Rehearsal.Bench
import ChatBot.Rehearsal.Evaluation
