import TonelessPinyin.Syllable.Table

/-!
The toned syllables of the standard reading dictionary, and their table.
-/
namespace TonelessPinyin.Syllable

def standardLines : List String := [
  "líng yuán xīng qiū tiàn kuà wǔ yǐn yí xié chóu nuò dān qiú xù xíng xiōng liú lǐn xiāng yōng xìn zhěn dài wù pān rú mǎ qiàn cì yì yín zhòng",
  "nèi chèng fēng zhuō fǎng ǎo zuò zhòu dòng sù qióng kuāng wāng lèi nǎo zhù shū xǔ shēn jiè dié nuó chì lòng yìng běng lán miáo lì jì yǔ luó",
  "chái hún huì rǎo zhū hàn xì tài yáo jùn mà lüè táng zhào zhāi zhǎ zhuó èr rǎn qǐ tǎng sè sī léi sà kuǐ pú tà shú dú tù yāng ǒu tái mián yìn",
  "wěn diào miè wà niǎo xiè yóu chè lěi luǒ quán cái liǎng gǔ mào guǎ suì mán quān shì lí wǎng kòu dù zhèn tīng bìng huò gòng chēng qīn qìn qǐn",
  "jiǒng lù xìng nán bì jié gōng yòu qià pí diàn diǎn fǔ guā luò gē tāng bāi gān cí xuān jiē lǎng shé diāo huà tóu piān dī ruǎn è qiè dōu ruì",
  "cuì jiān qián chóng xī chí dēng lín jué xuē xiào zàn zhǔ zhǎn dǎn zòu cǒu chuā zhá xí jiǎn jí fèi bèi fú chù bēng bá liáng kuài xiā hé biē",
  "bài yǎng lǜ lǔ xuán suǎn héng guǐ xuǎn gǎn lòu tī lè sǔn yào xiān què qín zhǐ jiá hù lā yǐ kè fū ài chú xiě wēi huàn zhǎo shǐ shuā kuì",
  "shuāng gài hài yǎn fàn pàng sòng āo ào nè xuè huá yíng chén guó pā fá xiāo pǒu sì lìn hǒu hòu qú ér xún niè wěi tí hóng tǔn xīn zhēn wāi",
  "shòu yè qí tòu hán dǒng hūn jū sǒu tiǎn lún gé yān yīn shí xué niā pēn fèn chǔn niú ròu duǒ zé yé yōu shěng kū hú xiá màn hóu zhì zhuī qiān",
  "gòu gōu dàn bēi bó chū nà zhōu xiù hòng tì cù kuò guō láo xiē ǎi zhā cóng tǎ dā yán pō sǎi xiǎng xià lēng xián tǎi róng nǐ jù hǎn pào qū kān",
  "chǐ wěng wān hào jǐng tān jú bù zàng liù jiù méi mù duì wèng bāng bǎo cháng zhàng duō fù yě kuí yāo lǒng bǔ yī zōng gùn liáo yǒng kǎn chàn",
  "zhí zhé bào méng guì chán qiào nàng yūn lóng kāi gǎo tào shǎn lǎi qié bàn hè jiā kōng yù shěn chuò jǐ nú xiáo yú jūn xín pēi bǐ chān dōng ěr",
  "mǎo liǔ yùn jī qiǎo páo pēng nuǒ duò xiǎn lǚ càn dòu péng suō qiē zuō pò tǒng yún lǎn mǎn qiǎng zhóu yàn sǎo miǎn zhuàn fà tàn shù pián ān",
  "kuā chā shà liàn mì nǒu dá lián cáo cān sēn qù chá nèn ǎn cán cuī cōng rán niǎn tán mái yuè nái làn huái mèng wǎn mí zǐ hái zhè chún luán",
  "shǒu liǎo dìng máng yǎo níng láng yóng yā yà máo míng zuì mǐ kāng xǐng qiáo wán dé biàn nóu jǐn yū chuí zuǒ bǒ huī tuǐ tuì bō zā bǎ qì dū",
  "niào tuī sóng dǐng cén náo yòng dǒu mín mǐn huáng kě zú chéng ní àn mǔ xiáng yáng cuò cuó tuǒ mǎng qūn bīn tiáo péi zhàn xiàng gǎng duān tū",
  "mǐng lóu áo biǎo biāo dǎo rùn tóng qī jiào háo wò nì cuán lú gāng rèn huāng fán kù shā yuān zī cǐ kuǎ wèn mén xū qiāo jiǎo zhūn kūn yīng",
  "chuáng bī xuě fèng zāo zhèng pīn nié zhái duó jiǔ huán běn zhà liào xiàn tuí duī yǐng zǒng bān kàng sū jiǎng jìng juàn dì xùn shè biè shàn",
  "cèng dīng dí sōng tāo jiàn huǎn zhǒng wéi zhān nìng rěn nù chà diǎo fáng pèi qiā fēn gāo bèn háng nín chōng kǒng liè gǒng yuàn guàng běi",
  "màng hān huǎng sàn tè mèn lái cǎi cāi wèi jiū shùn shuì páng chǎo sāo fěi chēn shèn hùn fěn cè féng liǎn chǎn má diē chài hū xuàn jīn jìn",
  "biǎn miǎo cǎn wǒ rù shuàng qiǎn tián shōu dāo yá sǒng guài zì bié wǎ kuǎi chòng hōng ruán ruí lǎo chèn sǎn zhuò é póu kēng tùn biào gù bǐng",
  "duǐ pó chě kuī hāi pī chōu huàng gǔn pì yàng shāi zuó yǔn dèn huǐ tún qiáng sāi tuán zhài piǎo qǐng kǔn zhī zhuì gèng gēng dǐ qún hě chuái",
  "tǒu chuǎi kài shǎo chuō lǒu suǒ duàn ě gèn tǎn chǎng làng nǎn nàn fēi zhǒu kùn wēn nuǎn piào céng shài pù tiān hǒng tiāo zhēng hāng tūn réng",
  "bàng móu mèi pài bà òu bā zǎn zuī zuǐ tú áng bǎng nài yǒu zāng kā guàn wū wēng shuò hén chuán kuǎn tā pāo qíng là miàn pín shān chī hē guī",
  "hēi mò xiū xiǔ chuǎn pǐ gū shēng lèng yuǎn ái zǎi gāi zhōng sháo táo nèng rǒng shuāi sào jiāo niàn guò zè rè rǔ huā qiāng fān néng cuǐ nǜ",
  "píng báo suí cáng qìng nǎng huǒ nóng āi chuǐ fén bèng juǎn shào wú kào zuǎn lài cuàn jīng wàn zhē lǐ kòng tiǎo piàn jià kèn kē tuó kǒu luō",
  "shèng pǔ jiāng huān ráo gā tíng wō gǒu huō niǔ jiú zōu zēn shǔ něi dāng àng pèng kǎo chāi zhuān piáo chuǎng shuǎng gàn róu zěng fǎn qǔ liàng",
  "gěng kuáng guāi biě bái cāo yǎ kàn diān pìng dǔ měng zí lōu kǎi kōu náng nǒng cuān fǎ cuǒ chǎ jǔ pán dūn cā mó huó quàn chuāng nián fāng",
  "cháo jiòng wā juān tǐng quǎn chāng càng ěn nòu měi dào zhú kǔ ǎng sān féi xǐ sōu shāo léng ōu ráng bǎn qiǔ kuàng nǎ ē niù tǐ shī cài rén",
  "zhǎi cùn mǒu zòng xú zān zēng chuàng wén pàn guǎn ná pāng shǔn bǐn suò ruò rǎng dàng tiè jiǎ cào téng mìng pǎng sēng cǎo xiǎo rì děng yē cú",
  "hěn zǔ suàn bīng chòu chuà zǔn chuì lǐng lǘ zá lǎ niàng nüè chǔ zǎo cī hǔ guān xūn nǐng mài sāng sàng bǎi zèng guǒ zhuàng dǎi tǎo pīng zhāng",
  "chuī chāo zhāo zào lào tuō án tuǎn chǎi gú tuān suān jiàng cūn juě tàng chūn cà biān dián hàng liě fěng shàng qiù qiá xiòng dèng wài kǎng",
  "zhěng sǎng kěng zhuǎn zuān shuài dǎng pěng wàng dùn zuàn piě záo tiě chuài gè suī shuàn xióng bí qīng mǒ tié chàng chǒu gǎi gěn chěn zèn pōu",
  "fǒu shǎng èn shě suǐ pū chào tēng kāo shén shéng pái mú tuò tōng chǒng qiàng zài shāng qiǎ fōu bú qiě diū gě chuàn nǎi miē mǎi luàn zhě wáng",
  "dà hēng zhǎng fó cāng lìng sā xǐn chē nǔ zù kǎ bāo huí tiào guāng lùn cún chěng pěi sú liǎ liē juè bēn sǐ tōu zán shǎ zūn sài bìn kuǎng",
  "jiōng lěng zhǔn còu cǔn shuà kēi lá pǒ chuān piāo gào lēi pìn fàng nā tiē guà luǎn cēn fā dáo tāi tòng tǔ hà ā pèn dāi pěn nī hōu hā á ǎ à",
  "zǎ nòng lié mī ké huài pǐn diě wá hǎ zāi diè gén yuě mōu yō ó ò lī né bū shuō kěn hèng lèn shá lāng rě zà ō sūn miāo sòu juē diǎ gá gǎ miù",
  "dē dēi lē cēng lū hēn ǒ hāo mē rāng jiáo nāng nān yué pǎn fóu lǔn hǎi zhuāng ēn shē zhuǎng nǚ jiě nuán hǎo yuē mā miào niū zū niáng nào nùn",
  "mān piè nāo bò kuān gà zhuài wǎi cuō pà guǎng pǎi tuàn děi tìng tēi zěn cū hèn mēn hǔn ruǐ còng ràng gàng rēng zéi pá dǎ rèng káng zhuā lūn",
  "niān pāi līn līng guǎi nǐn shuān zùn zhuāi ruá ruó niē lāo ré lüě chuāi zǒu shǎi sùn mō piē rún sǎ rào liāo mēng zhùn xiǒng shuó gēn cōu rǒu",
  "éi ěi èi ēi shuǐ quē pén zhuǐ sěn liū shóu zhuǎ māng hǎng māo shuǎi béng qué cǔ dǔn zháo duǎn cǎ qiōng gěi ruàn ròng shuǎ āng shuí xiú rōng",
  "cǎng há něng fiào piǎn shéi zhán pǎo zhuǎi pòu zún qǔn tá zhèi niě xiǎ sē lōng tèng ēng pǐng nuàn zǎng nún óu zhuán néi zhén rǔn chuǎ ràn",
  "sèng jǔn qiòng sǔ cèi mié mòu wòng pǎ zuí nǘ sí kú ché cǒng cóu shán dìn miǔ kēn suó guá niǎng biáng bòng biàng"]

def standard : List Text := standardLines.flatMap fun line => Text.separatedBy ' ' line.toList

/-- The table of the standard syllables, as it is drafted. -/
def standardDraft : SyllableTable.Draft × Option Error :=
  SyllableTable.draft .standard .standard standard

end TonelessPinyin.Syllable
