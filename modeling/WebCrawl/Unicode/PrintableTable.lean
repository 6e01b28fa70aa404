/-!
# Printable characters

Each entry starts a run of characters: the distance from the start of the last run in base 36 and
`P` for printable characters or `E` for those that a quoted text escapes: controls, separators,
unassigned characters and marks that would attach to what stands before them.
-/

namespace WebCrawl.Unicode

def printableRuns : List String := [
    "0E wP 2nE yP cE 1P giE 34P 8E 2P 6E 4P 7E 1P 1E 1P kE 1P 68E 7P 4mE 1P 12E 2P 1eE 2P 3E 1aP",
    "1E 1P 1E 2P 1E 2P 1E 9P rE 4P 6E hP aE bP 1E 1P 1aE lP gE 1P 2tE 8P 1E 6P 2E 2P 1E 4P wE 2P",
    "1E 1P uE tP 2hE bP 1E eP 17E 9P 7E 3P oE 4P 1E 9P 1E 3P 1E 7P fE 1P pE 5P 1E 1P bE 5P wE gP",
    "16E 1lP 1jE 1P 1E 1P 4E 8P 4E 1P 3E 7P aE 2P tE 1P 2E 1P 8E 2P 2E 2P mE 1P 7E 1P 1E 3P 4E 3P",
    "1E 1P 2E 6P 2E 2P 2E 1P 1E dP 2E 1P 3E 4P oE 5P 1E 1P 6E 4P 2E 2P mE 1P 7E 1P 2E 1P 2E 1P 2E",
    "4P 3E oP 4E 1P 1E 7P aE 2P 3E 1P 1E cP 1E 1P 9E 1P 3E 1P mE 1P 7E 1P 2E 1P 5E 3P 4E 8P 1E 1P",
    "2E 3P 1E fP 2E 4P cE 7P 1E 8P 2E 1P 8E 2P 2E 2P mE 1P 7E 1P 2E 1P 5E 3P 1E 2P 1E 6P 2E 2P 2E",
    "fP 2E 1P 3E 4P iE bP 1E 1P 6E 3P 3E 1P 4E 3P 2E 1P 1E 1P 2E 3P 2E 3P 3E 3P cE 5P 1E 1P 2E 3P",
    "3E 1P 3E 3P 1E lP lE 6P 3E 1P 8E 1P 3E 1P nE 1P gE 3P 1E 3P 4E jP 3E 1P 2E 2P 2E 4P aE 7P aE",
    "1P bE 1P 3E 1P nE 1P aE 1P 5E 3P 2E 2P 1E 1P 2E nP 3E 1P 2E 4P aE 1P 3E eP bE 1P 3E 1P 15E",
    "2P 1E 1P 2E 5P 3E 1P 3E 1P 2E 4P 3E 1P aE 4P qE 2P 2E 1P iE 3P oE 1P 9E 1P 1E 2P 7E 9P 2E 6P",
    "7E 7P aE 2P 3E cP 1cE 1P 2E bP 8E 8P dE 11P 2E 1P 1E 1P 5E 1P oE 1P 1E 1P aE 1P 2E 9P 1E 2P",
    "5E 1P 1E 9P aE 2P 4E wP oE 2P rE 1P 1E 1P 1E 1P eE 1P 10E iP 1E 5P 1E 2P 5E 1dP 8E 1P 6E 1P",
    "dE 11P 19E 4P 1E 6P 1E 2P 2E 2P pE 2P 4E 3P gE 4P dE 1P 2E 2P 6E 1P fE 1P 14E 1P 1E 5P 1E 2P",
    "ahE 1P 4E 2P 7E 1P 1E 1P 4E 2P 15E 1P 4E 2P xE 1P 4E 2P 7E 1P 1E 1P 4E 2P fE 1P 1lE 1P 4E 2P",
    "1vE 5P tE 3P qE 6P 2eE 2P 6E 2P hsE 1P sE 3P 2hE 7P iE dP jE 3P 2E 9P iE eP dE 1P 3E fP 1gE",
    "2P 1E 7P 8E 1P 2E bP 9E 3P aE 6P aE 6P bE 5P aE 6P 2hE 7P 5E 2P yE 1P 1E 5P 1yE aP vE 4P 4E",
    "2P 3E 4P 2E 1P 6E 7P 1E 3P 16E 2P 5E bP 18E 4P qE 6P bE 3P 1lE 2P 2E 3P 1kE 1P 1E 9P 1E 1P",
    "2E 8P 6E dP aE 6P aE 6P eE 2eP 1cE aP 4E 3P 8E 1P tE 9P cE 2P wE 4P 2E 6P 1kE 1P 1E 2P 3E 1P",
    "1E dP 1cE 8P 2E 5P fE 3P 1qE 5P 17E 2P bE bP 1E dP 1E 7P 4E 1P 6E 1P 3E 2P 1E 5P 5cE 1sP 7qE",
    "2P 6E 2P 12E 2P 6E 2P 8E 1P 1E 1P 1E 1P 1E 1P vE 2P 1hE 1P fE 1P eE 2P 6E 1P jE 2P 3E 1P 9E",
    "hP oE 8P 1bE hP 2E 2P rE 1P dE 3P yE 1qP 3wE 4P iiE mP bE lP 1ecE 2P ahE 3P 2E 5P 19E 1P 1E",
    "5P 1E 2P 1kE 7P 2E fP nE 9P 7E 1P 7E 1P 7E 1P 7E 1P 7E 1P 7E 1P 7E 1P 7E xP 2mE yP qE 1P 2hE",
    "cP 5yE qP gE 1P 15E 6P gE 1P 2eE 4P 2tE 5P 17E 1P 2mE 1P 2eE 9P 1cE 1P mlpE 3P 1jE 9P 9oE kP",
    "1bE 4P 1E aP wE 2P 28E 2P 6E 8P 65E kP hE 1P 3E 1P 4E 1P pE 2P 5E 4P aE 6P 1kE 8P 1wE aP cE",
    "oP dE 1P 12E 8P pE bP 1E cP uE 6P 1cE 1P 2E 4P 2E 2P 2E 1P dE 1P bE 4P 7E 1P pE 1P 15E 6P 2E",
    "2P 2E bP 3E 1P 8E 1P 1E 2P aE 2P wE 1P 1fE 1P 1E 3P 2E 2P 5E 2P 1E 1P 1E oP hE 2P 8E bP 6E",
    "2P 6E 2P 6E 9P 7E 1P 7E 1P 1oE 4P 39E 1P 2E 1P 4E 3P aE 6P 8mcE cP nE 4P 1dE 6isP a6E 2P 2yE",
    "12P 7E cP 5E 5P 1E 1P oE 1P 5E 1P 1E 1P 2E 1P 2E 1P i2E wP gE gP aE mP zE 1P jE 1P 4E 4P 5E",
    "1P 3rE 4P 4dE 2P vE 3P 6E 2P 6E 2P 6E 2P 3E 3P 7E 1P 7E dP 2E 2P cE 1P qE 1P jE 1P 2E 1P fE",
    "2P eE yP 3fE 5P 3E 4P 19E 3P 2gE 1P dE 3P 1E 1bP 19E 3nP tE 3P 1dE gP rE 4P 10E 9P uE 5P 12E",
    "aP uE 1P 11E 4P eE 16P 4eE 2P aE 6P 10E 4P 10E 4P 14E 8P 1gE bP cE 1P fE 1P 7E 1P 2E 1P bE",
    "1P fE 1P 7E 1P 2E 3P 1gE cP 8nE 9P mE aP 8E oP 6E 1P 16E 1P 9E 1xP 6E 2P 1E 1P 18E 1P 2E 3P",
    "1E 2P nE 1P 20E 8P 9E 1cP jE 1P 2E 5P xE 3P rE 5P rE 12P 1kE 4P kE 2P 1bE fP 4E 1P 3E 1P tE",
    "aP 9E 7P 9E 7P 1sE wP 11E 6P cE 9P 1iE 3P tE 2P rE 5P qE 7P 4E cP 7E 28P 21E 1jP 1fE dP 1fE",
    "7P 16E cP aE 6P 12E 8P oE 8P 2E 5sP vE 1P 16E 3P 1E 2P 2E gP 6E 8P 9E 13P 14E 8P mE bP 9E mP",
    "iE 4P 4E 12P sE kP nE 9P 1E 1P 1iE fP 7E 4P uE 1P 2E 2P 1E cP 1dE 4P 2E 2P 2E 1P 4E eP pE 7P",
    "aE 9P 10E 5P 1E 9P iE 8P zE 1P 3E bP 1gE 9P 1E 1P 8E 4P 2E 1P gE 1P kE bP iE 1P sE 3P 2E 4P",
    "6E 1P 2E 1rP 7E 1P 1E 1P 4E 1P fE 1P bE 6P 1bE 1P 3E dP aE 8P 2E 1P 8E 2P 2E 2P mE 1P 7E 1P",
    "2E 1P 5E 3P 1E 1P 1E 1P 4E 2P 2E 2P 2E 3P 1E cP 7E sP aE 1P 1E 2P 1E 1P 12E 1P 1E 1P 2E fP",
    "1E 1P 2E 3P 1E 1P 3E 1P 2E 13P 1kE 8P 2E 3P 1E 1P lE 1P 1E 1P 3E uP 1cE 1P 2E 6P 1E 1P 2E 1P",
    "1E 2P 1E 2P 4E 8P aE 4mP 1bE 1P 2E 6P 4E 2P 1E 2P rE 10P 1fE 8P 2E 1P 1E 2P 4E bP aE 6P dE",
    "jP 17E 1P 1E 1P 2E 8P 2E 6P aE 6P kE sP rE 3P 1E 1P 2E 4P 1E 9P nE 55P 1bE 9P 1E 2P 1E 2sP",
    "2bE cP 8E 2P 1E 2P 8E 1P 2E 1P oE 1P 5E 1P 2E 6P 4E 1P 3E 9P aE 1yP 8E 2P 16E 8P 4E 1P 4E rP",
    "1E aP 14E 6P 2E 4P 8E 9P 1E 6P 2E 3P 1aE dP 1E 2P 9E dP 21E 7P aE 2fP 1E 3P 1E 1P 1E 2gP yE",
    "eP aE 6P 9E 1P 12E eP 1E 1P 6E aP tE 3P wE pP 1E 7P 1E 2P 1E 23P 7E 1P 2E 1P 12E lP 1E 9P aE",
    "6P 6E 1P 2E 1P 11E 4P 2E 1P 1E 1P 1E 7P aE 6P 18E 4P aE 6uP jE 2P 4E 9P fE 1P 10E 8P 2E 3P",
    "nE 2eP 1E fP 1eE dP pnE 2uP 33E 1P 5E bP 5gE 218P 2rE dP tsE hP 6E pP 32zE 5P g7E 5a1P uE cP",
    "3E 3P aE 1c6P ftE 7P vE 1P aE 4P 29E 1P aE 6P uE 7P 1E aP 1cE 7P fE aP aE 1P 7E 1P lE 5P jE",
    "c0P 1mE 5iP 2jE 5P pE 2P pE 18P 23E 5P 1kE bP dE 1sP 4E eP 5E 9P 5p2E 15P wE 2pP 37E 6ppP 4E",
    "1P 7E 1P 2E 1P 83E fP 1E tP 3E 2P 1E eP 4E 8P b0E 1s4P 2zE 5P dE 3P 9E 7P aE 2P 1E 2P 1E",
    "31cP 71E 3P c4E 6P nE fP hE 2nP 38E 1oP 6uE aP 13E 2P 1oE 5P 3E mP 2E 7P uE 4P 1pE lP 1uE 3P",
    "1E 3eP kE cP kE cP 2fE 9P pE 3rP 2dE 1P 1zE 1P 2E 2P 1E 2P 2E 2P 4E 1P cE 1P 1E 1P 7E 1P 1tE",
    "1P 4E 2P 8E 1P 7E 1P sE 1P 4E 1P 5E 1P 1E 3P 7E 1P 9gE 2P 84E 2P fmE 1jP 4E 1eP 8E 1P eE 1P",
    "7E voP vE 6P 6E 79P 1qE 42P 19E aP 7E 2P aE 4P 2E 8wP uE iP 18E 4P aE 5P 1E cwP sE 4P aE 5yP",
    "uE 2P bE 4P 1E 5cP vE 1P 3E 1P 2E 1P 7E 2P 5E 9P 2E 68P 7E 1P 4E 1P 2E 1P fE 1P 5hE 2P 9E",
    "1cP 1wE 7P 1E 4P aE 4P 2E ltP 1wE 24P 1pE 5eP 4E 1P rE 1P 2E 1P 1E 2P 1E 1P aE 1P 4E 1P 1E",
    "1P 1E 6P 1E 4P 1E 1P 1E 1P 1E 1P 3E 1P 2E 1P 1E 2P 1E 1P 1E 1P 1E 1P 1E 1P 1E 1P 2E 1P 1E 2P",
    "4E 1P 7E 1P 4E 1P 4E 1P 1E 1P aE 1P hE 5P 3E 1P 5E 1P hE 1gP 2E 7iP 18E 4P 2sE cP fE 2P fE",
    "1P fE 1P 11E aP 4uE 1kP tE dP 18E 4P 9E 7P 2E eP 6E 4aP rdE 3P hE 3P dE 3P 62E 6P cE 4P 1E",
    "fP cE 4P 1kE 8P aE 6P 14E 8P uE 2P cE 4P 2E eP 9E 13P 9kE 8P eE 2P dE 3P bE 3P 1lE 1P 1E 4P",
    "gE 2P cE 4P aE 7P 43E 1P 2vE slP wyoE wP 3dqE 2P 4geE 2P 5rlE fP haE 1wiP f2E 15uP 3t7E 5P",
    "6juE"]

end WebCrawl.Unicode
